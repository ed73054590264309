import Drawbridge.Double
import Mathlib.Algebra.Order.Ring.Nat
import Mathlib.Tactic.NormNum
import Mathlib.Tactic.Ring

/-!
# Integers among the doubles

A double is its sign, its exponent field and its fraction (`ofParts_parts`, `parts_ofParts`).  Every
integer below `2 ^ 53` is denoted by the double that `ofInt` gives (`toInt?_ofInt`) and, negative
zero apart, by no other (`ofInt_of_toInt?`).
-/

namespace Drawbridge.Double

variable {x : Double} {n : Int} {m : Nat}

/-! ## Parts -/

theorem pow_52 : Nat.pow 2 52 = 4503599627370496 := by decide

theorem two_pow_52 : 2 ^ 52 = 4503599627370496 := pow_52

theorem signBit_eq (negative : Bool) :
    signBit negative = if negative then 9223372036854775808 else 0 := by
  cases negative <;> decide

theorem fraction_eq (x : Double) : x.fraction = x.bits.toNat % 4503599627370496 := by
  rw [fraction, pow_52]

theorem exponentField_eq (x : Double) :
    x.exponentField = x.bits.toNat / 4503599627370496 % 2048 := by
  rw [exponentField, pow_52, show Nat.pow 2 11 = 2048 by decide]

theorem isNegative_iff : x.isNegative = true ↔ 9223372036854775808 ≤ x.bits.toNat := by
  simp [isNegative, UInt64.le_iff_toNat_le]

theorem fraction_lt (x : Double) : x.fraction < 4503599627370496 := by
  rw [fraction_eq]
  exact Nat.mod_lt _ (by decide)

theorem significand_of_pos (h : 0 < x.exponentField) :
    x.significand = 4503599627370496 + x.fraction := by
  rw [significand, if_neg h.ne', pow_52]

/-- The double with these parts. -/
def ofParts (negative : Bool) (exponent fraction : Nat) : Double :=
  ⟨(signBit negative + exponent * 4503599627370496 + fraction).toUInt64⟩

theorem ofParts_parts (x : Double) : ofParts x.isNegative x.exponentField x.fraction = x := by
  have hlt := x.bits.toNat_lt
  have hbits : signBit x.isNegative + x.exponentField * 4503599627370496 + x.fraction
      = x.bits.toNat := by
    rw [signBit_eq, exponentField_eq, fraction_eq]
    split_ifs with hs
    · have := isNegative_iff.1 hs
      omega
    · have := mt isNegative_iff.2 hs
      omega
  rw [ofParts, hbits, Nat.toUInt64_eq, UInt64.ofNat_toNat]

theorem parts_ofParts (negative : Bool) {e f : Nat} (he : e < 2048) (hf : f < 4503599627370496) :
    (ofParts negative e f).isNegative = negative ∧ (ofParts negative e f).exponentField = e ∧
      (ofParts negative e f).fraction = f := by
  have hbits : (ofParts negative e f).bits.toNat
      = signBit negative + e * 4503599627370496 + f := by
    rw [ofParts, Nat.toUInt64_eq, UInt64.toNat_ofNat_of_lt']
    rw [signBit_eq, UInt64.size]
    split_ifs <;> omega
  rw [signBit_eq] at hbits
  rw [exponentField_eq, fraction_eq, Bool.eq_iff_iff, isNegative_iff, hbits]
  cases negative <;> simp <;> omega

/-! ## The integer that a double denotes -/

/-- The magnitude is `significand * 2 ^ (k - 1075)`, where `k` is the exponent field, at least 1. -/
theorem wholeMagnitude?_eq_some_iff :
    x.wholeMagnitude? = some m ↔
      m * 2 ^ (1075 - max x.exponentField 1)
        = x.significand * 2 ^ (max x.exponentField 1 - 1075) := by
  unfold wholeMagnitude? power
  generalize max x.exponentField 1 = k
  simp only [Nat.pow_eq]
  split
  · next p hp =>
    have hp : (k : Int) - 1075 = p := hp
    obtain ⟨hp, hk⟩ : p = k - 1075 ∧ 1075 ≤ k := by omega
    rw [Nat.sub_eq_zero_of_le hk, pow_zero, mul_one, Option.some_inj, ← hp, eq_comm]
  · next p hp =>
    have hp : (k : Int) - 1075 = -(p + 1 : Nat) := hp
    obtain ⟨hp, hk⟩ : p + 1 = 1075 - k ∧ k ≤ 1075 := by omega
    rw [Nat.sub_eq_zero_of_le hk, pow_zero, mul_one, ← hp]
    split_ifs with hd
    · rw [Option.some_inj, Nat.div_eq_iff_eq_mul_left (Nat.two_pow_pos _)
        (Nat.dvd_of_mod_eq_zero hd), eq_comm]
    · refine iff_of_false nofun fun h => hd ?_
      rw [← h, Nat.mul_mod_left]

theorem toInt?_eq_some_iff :
    x.toInt? = some n ↔ x.isFinite = true ∧ ∃ m, x.wholeMagnitude? = some m ∧
      (if x.isNegative then -(m : Int) else m) = n := by
  unfold toInt?
  by_cases h : x.isFinite = true
  · cases x.wholeMagnitude? <;> simp [h]
  · simp [h]

/-! ## The double of an integer -/

/-- An integer of at most 53 bits with its leading one at bit 52 is a significand. -/
theorem scaled_bounds (hm : m ≠ 0) (small : m.log2 ≤ 52) :
    4503599627370496 ≤ m * 2 ^ (52 - m.log2) ∧ m * 2 ^ (52 - m.log2) < 9007199254740992 := by
  have hpow : 2 ^ m.log2 * 2 ^ (52 - m.log2) = 4503599627370496 := by
    rw [← pow_add, Nat.add_sub_cancel' small, two_pow_52]
  have hge := Nat.mul_le_mul_right (2 ^ (52 - m.log2)) (Nat.log2_self_le hm)
  have hlt := Nat.mul_lt_mul_of_pos_right (Nat.lt_log2_self (n := m))
    (Nat.two_pow_pos (52 - m.log2))
  rw [pow_succ, Nat.mul_right_comm, hpow] at hlt
  rw [hpow] at hge
  omega

/-- Two shifts that take an integer to the same binade are equal. -/
theorem shift_le {a b : Nat} (ha : 4503599627370496 ≤ m * 2 ^ a)
    (hb : m * 2 ^ b < 9007199254740992) : b ≤ a := by
  by_contra hab
  have hle : m * 2 ^ a * 2 ≤ m * 2 ^ b := by
    rw [mul_assoc, ← pow_succ]
    exact Nat.mul_le_mul_left m (Nat.pow_le_pow_right (by decide) (by omega))
  omega

theorem ofInt_eq_ofParts (hn : n ≠ 0) (small : n.natAbs.log2 ≤ 52) :
    ofInt n = ofParts (n < 0) (n.natAbs.log2 + 1023)
      (n.natAbs * 2 ^ (52 - n.natAbs.log2) - 4503599627370496) := by
  have hle := (scaled_bounds (Int.natAbs_ne_zero.2 hn) small).1
  rw [ofInt, if_neg (Int.natAbs_ne_zero.2 hn), if_pos small, ofParts, pow_52, Nat.pow_eq]
  refine congrArg (fun k : Nat => (⟨k.toUInt64⟩ : Double)) ?_
  omega

/-- The sign, exponent field and fraction of the double of an integer. -/
theorem parts_ofInt (hn : n ≠ 0) (small : n.natAbs.log2 ≤ 52) :
    (ofInt n).isNegative = decide (n < 0) ∧ (ofInt n).exponentField = n.natAbs.log2 + 1023 ∧
      (ofInt n).significand = n.natAbs * 2 ^ (52 - n.natAbs.log2) := by
  have hbounds := scaled_bounds (Int.natAbs_ne_zero.2 hn) small
  obtain ⟨hs, he, hf⟩ := parts_ofParts (decide (n < 0)) (e := n.natAbs.log2 + 1023)
    (f := n.natAbs * 2 ^ (52 - n.natAbs.log2) - 4503599627370496) (by omega) (by omega)
  rw [← ofInt_eq_ofParts hn small] at hs he hf
  refine ⟨hs, he, ?_⟩
  rw [significand_of_pos (by omega), hf]
  omega

/-- Every integer below `2 ^ 53` is denoted by its double. -/
theorem toInt?_ofInt (small : n.natAbs < 9007199254740992) : (ofInt n).toInt? = some n := by
  by_cases hn : n = 0
  · subst hn
    refine toInt?_eq_some_iff.2 ⟨by decide, 0, wholeMagnitude?_eq_some_iff.2 ?_, rfl⟩
    rw [zero_mul, show (ofInt 0).significand = 0 by decide, zero_mul]
  have hl : n.natAbs.log2 ≤ 52 :=
    Nat.lt_succ_iff.1 ((Nat.log2_lt (Int.natAbs_ne_zero.2 hn)).2 small)
  obtain ⟨hs, he, hsig⟩ := parts_ofInt hn hl
  refine toInt?_eq_some_iff.2 ⟨?_, n.natAbs, wholeMagnitude?_eq_some_iff.2 ?_, ?_⟩
  · rw [isFinite, he, decide_eq_true_eq]
    omega
  · rw [hsig, he, max_eq_left (by omega), show n.natAbs.log2 + 1023 - 1075 = 0 by omega, pow_zero,
      mul_one, show 1075 - (n.natAbs.log2 + 1023) = 52 - n.natAbs.log2 by omega]
  · rw [hs]
    by_cases h : n < 0
    · rw [if_pos (decide_eq_true h)]
      omega
    · rw [if_neg (by simpa using h)]
      omega

theorem exponentField_pos_of_wholeMagnitude? (h : x.wholeMagnitude? = some m) (hm : m ≠ 0) :
    0 < x.exponentField := by
  by_contra he
  have he : x.exponentField = 0 := by omega
  rw [wholeMagnitude?_eq_some_iff, he, significand, if_pos he] at h
  have hlt := x.fraction_lt
  -- a subnormal number is below `2 ^ -1022`
  have hle : 2 ^ 52 ≤ m * 2 ^ (1075 - max 0 1) :=
    calc 2 ^ 52 ≤ 2 ^ (1075 - max 0 1) := Nat.pow_le_pow_right (by decide) (by decide)
      _ ≤ m * 2 ^ (1075 - max 0 1) := Nat.le_mul_of_pos_left _ (Nat.pos_of_ne_zero hm)
  rw [h, two_pow_52, Nat.sub_eq_zero_of_le (by decide), pow_zero, mul_one] at hle
  omega

theorem eq_of_wholeMagnitude?_zero (h : x.wholeMagnitude? = some 0) : x = zero ∨ x = negZero := by
  rw [wholeMagnitude?_eq_some_iff, zero_mul, eq_comm, Nat.mul_eq_zero] at h
  have hsig : x.significand = 0 := h.resolve_right (Nat.two_pow_pos _).ne'
  by_cases he : x.exponentField = 0
  · rw [significand, if_pos he] at hsig
    rw [← ofParts_parts x, he, hsig]
    cases x.isNegative
    · exact Or.inl rfl
    · exact Or.inr rfl
  · rw [significand_of_pos (by omega)] at hsig
    omega

/-- A positive integer below `2 ^ 53` is the magnitude of the double that has its bits from the
leading one on as significand. -/
theorem exponentField_of_wholeMagnitude? (h : x.wholeMagnitude? = some m) (hm : m ≠ 0)
    (small : m < 9007199254740992) :
    m.log2 ≤ 52 ∧ x.exponentField = m.log2 + 1023 ∧ x.significand = m * 2 ^ (52 - m.log2) := by
  have he := exponentField_pos_of_wholeMagnitude? h hm
  rw [wholeMagnitude?_eq_some_iff, max_eq_left he] at h
  have hf := x.fraction_lt
  have hsig := significand_of_pos he
  have hlog : m.log2 ≤ 52 := Nat.lt_succ_iff.1 ((Nat.log2_lt hm).2 small)
  have hle : x.exponentField ≤ 1075 := by
    by_contra hgt
    rw [Nat.sub_eq_zero_of_le (by omega), pow_zero, mul_one] at h
    have : 2 ≤ 2 ^ (x.exponentField - 1075) := Nat.le_self_pow (by omega) 2
    have := Nat.mul_le_mul_left x.significand this
    omega
  rw [Nat.sub_eq_zero_of_le hle, pow_zero, mul_one] at h
  have hbounds := scaled_bounds hm hlog
  have hq : 1075 - x.exponentField = 52 - m.log2 :=
    Nat.le_antisymm (shift_le hbounds.1 (by omega)) (shift_le (by omega) hbounds.2)
  refine ⟨hlog, by omega, ?_⟩
  rw [← h, hq]

/-- Negative zero apart, no two doubles denote one integer below `2 ^ 53`. -/
theorem ofInt_of_toInt? (h : x.toInt? = some n) (small : n.natAbs < 9007199254740992)
    (hx : x ≠ negZero) : ofInt n = x := by
  obtain ⟨-, m, hm, hn⟩ := toInt?_eq_some_iff.1 h
  have hnm : n.natAbs = m := by
    rw [← hn]
    split_ifs <;> omega
  by_cases hm0 : m = 0
  · subst hm0
    rw [show n = 0 by omega, (eq_of_wholeMagnitude?_zero hm).resolve_right hx]
    rfl
  obtain ⟨hlog, he, hsig⟩ := exponentField_of_wholeMagnitude? hm hm0 (hnm ▸ small)
  have hneg : decide (n < 0) = x.isNegative := by
    cases hs : x.isNegative <;> rw [hs] at hn <;> simp at hn ⊢ <;> omega
  rw [significand_of_pos (by omega)] at hsig
  rw [ofInt_eq_ofParts (by omega) (hnm ▸ hlog), hnm, hneg, ← he, ← hsig, Nat.add_sub_cancel_left,
    ofParts_parts]

end Drawbridge.Double
