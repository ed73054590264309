import Drawbridge.Handle
import Mathlib.Algebra.Order.Ring.Nat

/-!
# Handles in words

Packing a handle loses nothing (`ofBits_toBits`, `toBits_ofBits`), and the null handle is the word
zero and no other (`isNull_ofBits`).
-/

namespace Drawbridge.Handle

theorem toNat_toBits (h : Handle) :
    h.toBits.toNat = h.generation.toNat * 2 ^ 32 + h.index.toNat := by
  have hg := h.generation.toNat_lt
  have hi := h.index.toNat_lt
  have hlt : h.generation.toNat * 2 ^ 32 < 2 ^ 64 := by omega
  unfold toBits
  rw [UInt64.toNat_or, UInt64.toNat_shiftLeft, UInt32.toNat_toUInt64, UInt32.toNat_toUInt64]
  show h.generation.toNat <<< 32 % 2 ^ 64 ||| h.index.toNat = _
  rw [Nat.shiftLeft_eq, Nat.mod_eq_of_lt hlt, ← Nat.shiftLeft_eq,
    ← Nat.shiftLeft_add_eq_or_of_lt hi]

@[simp] theorem ofBits_toBits (h : Handle) : ofBits h.toBits = h := by
  have hg := h.generation.toNat_lt
  have hi := h.index.toNat_lt
  obtain ⟨i, g⟩ := h
  unfold ofBits
  congr 1
  · apply UInt32.toNat_inj.1
    rw [UInt64.toNat_toUInt32, toNat_toBits]
    simp only at *
    omega
  · apply UInt32.toNat_inj.1
    rw [UInt64.toNat_toUInt32, UInt64.toNat_shiftRight, toNat_toBits]
    show (_ >>> 32) % _ = _
    rw [Nat.shiftRight_eq_div_pow]
    simp only at *
    omega

@[simp] theorem toBits_ofBits (w : UInt64) : (ofBits w).toBits = w := by
  have := w.toNat_lt
  apply UInt64.toNat_inj.1
  rw [toNat_toBits]
  unfold ofBits
  rw [UInt64.toNat_toUInt32, UInt64.toNat_toUInt32, UInt64.toNat_shiftRight]
  show (w.toNat >>> 32) % _ * _ + _ = _
  rw [Nat.shiftRight_eq_div_pow]
  omega

theorem le_toNat_toBits {h : Handle} (hg : h.generation ≠ 0) : 2 ^ 32 ≤ h.toBits.toNat := by
  have hpos : 0 < h.generation.toNat := Nat.pos_of_ne_zero fun e => hg (UInt32.toNat_inj.1 e)
  rw [toNat_toBits]
  omega

theorem toBits_ne_zero {h : Handle} (hg : h.generation ≠ 0) : h.toBits ≠ 0 := by
  have hle := le_toNat_toBits hg
  intro e
  rw [e] at hle
  exact absurd hle (by decide)

theorem isNull_iff (h : Handle) : h.isNull = true ↔ h = null := by simp [isNull]

theorem isNull_null : null.isNull = true := by decide

@[simp] theorem ofBits_zero : ofBits 0 = null := rfl

theorem isNull_ofBits (w : UInt64) : (ofBits w).isNull = true ↔ w = 0 := by
  rw [isNull_iff]
  constructor
  · intro e
    rw [← toBits_ofBits w, e]
    decide
  · rintro rfl
    exact ofBits_zero

end Drawbridge.Handle
