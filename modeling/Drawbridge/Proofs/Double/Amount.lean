import Drawbridge.Proofs.Double
import Mathlib.Algebra.Field.Rat
import Mathlib.Algebra.GroupWithZero.Basic
import Mathlib.Data.Rat.Cast.Defs

/-!
# What a double amounts to

The `amount` of a finite number is `± significand * 2 ^ power`, an exact rational.  A number that
denotes an integer amounts to it (`amount_of_toInt?`), whatever its bits.
-/

namespace Drawbridge.Double

/-- An exact number, or one of those that are none. Both zeros amount to 0. -/
inductive Amount where
  | finite (q : ℚ)
  | infinite (negative : Bool)
  | nan
  deriving DecidableEq

/-- What a double amounts to, by its sign, its significand and its power. -/
def amount (x : Double) : Amount :=
  if x.isNaN then .nan
  else if x.isInfinite then .infinite x.isNegative
  else .finite ((if x.isNegative then -1 else 1) * (x.significand * (2 : ℚ) ^ x.power))

theorem two_zpow_sub (a b : ℕ) : (2 : ℚ) ^ ((a : ℤ) - b) * 2 ^ (b - a) = 2 ^ (a - b) := by
  have hsum : (a : ℤ) - b + (b - a : ℕ) = (a - b : ℕ) := by omega
  rw [← zpow_natCast, ← zpow_natCast, ← zpow_add₀ two_ne_zero, hsum]

theorem magnitude_of_wholeMagnitude? {x : Double} {m : ℕ} (h : x.wholeMagnitude? = some m) :
    x.significand * (2 : ℚ) ^ x.power = m := by
  rw [wholeMagnitude?_eq_some_iff] at h
  unfold power
  generalize max x.exponentField 1 = k at h ⊢
  have hpos : (2 : ℚ) ^ (1075 - k) ≠ 0 := pow_ne_zero _ two_ne_zero
  refine mul_right_cancel₀ hpos ?_
  calc x.significand * (2 : ℚ) ^ ((k : ℤ) - 1075) * 2 ^ (1075 - k)
    _ = x.significand * 2 ^ (k - 1075) := by
        rw [mul_assoc]
        exact congrArg _ (two_zpow_sub k 1075)
    _ = m * 2 ^ (1075 - k) := by exact_mod_cast h.symm

theorem amount_of_isFinite {x : Double} (h : x.isFinite = true) :
    x.amount =
      .finite ((if x.isNegative then -1 else 1) * (x.significand * (2 : ℚ) ^ x.power)) := by
  have hexp : x.exponentField ≠ 2047 := by simpa [isFinite] using h
  simp [amount, isNaN, isInfinite, hexp]

theorem amount_of_toInt? {x : Double} {n : ℤ} (h : x.toInt? = some n) : x.amount = .finite n := by
  obtain ⟨hfin, m, hm, rfl⟩ := toInt?_eq_some_iff.1 h
  rw [amount_of_isFinite hfin, magnitude_of_wholeMagnitude? hm]
  split_ifs <;> simp

end Drawbridge.Double
