import Drawbridge.Proofs.Double.Amount
import Mathlib.Algebra.Order.Field.Power
import Mathlib.Data.Rat.Cast.Order

/-!
# Exact tests of doubles

Comparing two doubles compares what they are exactly (`atMost_iff`), so that the integers between
two ends are told by two comparisons (`atMost_ofInt`, `ofInt_atMost`).  A double is an integer just
if it amounts to one (`amount_eq_iff`), and then the cast to 32 bits keeps it where it fits
(`toInt_toInt32`).
-/

namespace Drawbridge.Double

variable {x y : Double} {n k : ℤ}

/-! ## Order -/

/-- `± significand * 2 ^ power`: what a finite number is, and for an infinity the power of two next
to the finite numbers. -/
def signed (x : Double) : ℚ :=
  (if x.isNegative then -1 else 1) * (x.significand * (2 : ℚ) ^ x.power)

theorem amount_eq_signed (h : x.isFinite = true) : x.amount = .finite x.signed :=
  amount_of_isFinite h

theorem inUnits_mul_zpow {e : ℤ} (he : e ≤ x.power) : (x.inUnits e : ℚ) * 2 ^ e = x.signed := by
  have hpow : (2 : ℚ) ^ (x.power - e).toNat * 2 ^ e = 2 ^ x.power := by
    rw [← zpow_natCast, ← zpow_add₀ two_ne_zero, Int.toNat_of_nonneg (by omega), sub_add_cancel]
  unfold inUnits signed
  simp only [Nat.pow_eq]
  split_ifs
  · push_cast
    rw [neg_mul, mul_assoc, hpow, neg_one_mul]
  · push_cast
    rw [mul_assoc, hpow, one_mul]

theorem atMost_iff :
    x.atMost y = true ↔ x.isNaN = false ∧ y.isNaN = false ∧ x.signed ≤ y.signed := by
  simp only [atMost, Bool.and_eq_true, Bool.not_eq_true', decide_eq_true_eq, and_assoc]
  rw [← inUnits_mul_zpow (min_le_left x.power y.power),
    ← inUnits_mul_zpow (min_le_right x.power y.power), mul_le_mul_iff_left₀ (zpow_pos two_pos _),
    Int.cast_le]

theorem isNaN_of_isFinite (h : x.isFinite = true) : x.isNaN = false := by
  have hexp : x.exponentField ≠ 2047 := by simpa [isFinite] using h
  simp [isNaN, hexp]

theorem signed_of_toInt? (h : x.toInt? = some n) : x.signed = n := by
  have hx := amount_of_toInt? h
  rw [amount_eq_signed (toInt?_eq_some_iff.1 h).1] at hx
  exact Amount.finite.inj hx

theorem atMost_iff_of_toInt? (hx : x.toInt? = some n) (hy : y.toInt? = some k) :
    x.atMost y = true ↔ n ≤ k := by
  rw [atMost_iff, signed_of_toInt? hx, signed_of_toInt? hy, Int.cast_le]
  simp [isNaN_of_isFinite (toInt?_eq_some_iff.1 hx).1,
    isNaN_of_isFinite (toInt?_eq_some_iff.1 hy).1]

theorem ofInt_atMost (hk : k.natAbs < 9007199254740992) (hx : x.toInt? = some n) :
    (ofInt k).atMost x = true ↔ k ≤ n :=
  atMost_iff_of_toInt? (toInt?_ofInt hk) hx

theorem atMost_ofInt (hk : k.natAbs < 9007199254740992) (hx : x.toInt? = some n) :
    x.atMost (ofInt k) = true ↔ n ≤ k :=
  atMost_iff_of_toInt? hx (toInt?_ofInt hk)

/-! ## Integers -/

theorem isWhole_iff : x.isWhole = true ↔ ∃ n, x.toInt? = some n := by
  unfold isWhole toInt?
  cases x.isFinite <;> cases x.wholeMagnitude? <;> simp

theorem wholeMagnitude?_of_magnitude {m : ℕ} (h : x.significand * (2 : ℚ) ^ x.power = m) :
    x.wholeMagnitude? = some m := by
  rw [wholeMagnitude?_eq_some_iff]
  unfold power at h
  generalize max x.exponentField 1 = k at h ⊢
  have scaled : (m * 2 ^ (1075 - k) : ℚ) = x.significand * 2 ^ (k - 1075) :=
    calc (m * 2 ^ (1075 - k) : ℚ)
      _ = x.significand * ((2 : ℚ) ^ ((k : ℤ) - 1075) * 2 ^ (1075 - k)) := by rw [← h, mul_assoc]
      _ = x.significand * 2 ^ (k - 1075) := congrArg _ (two_zpow_sub k 1075)
  exact_mod_cast scaled

/-- A double denotes an integer just if it amounts to it. -/
theorem amount_eq_iff : x.amount = .finite n ↔ x.toInt? = some n := by
  refine ⟨fun h => ?_, amount_of_toInt?⟩
  have hfin : x.isFinite = true := by
    by_contra hx
    have hexp : x.exponentField = 2047 := by simpa [isFinite] using hx
    by_cases hf : x.fraction = 0 <;> simp [amount, isNaN, isInfinite, hexp, hf] at h
  rw [amount_eq_signed hfin, signed] at h
  have h := Amount.finite.inj h
  have hpos : 0 ≤ x.significand * (2 : ℚ) ^ x.power := by positivity
  rw [toInt?_eq_some_iff]
  cases hs : x.isNegative
  · rw [hs, if_neg (by decide), one_mul] at h
    lift n to ℕ using by exact_mod_cast h ▸ hpos
    exact ⟨hfin, n, wholeMagnitude?_of_magnitude h, rfl⟩
  · rw [hs, if_pos rfl, neg_one_mul, neg_eq_iff_eq_neg] at h
    obtain ⟨m, rfl⟩ : ∃ m : ℕ, n = -m :=
      Int.exists_eq_neg_ofNat (by exact_mod_cast neg_nonneg.1 (h ▸ hpos))
    exact ⟨hfin, m, wholeMagnitude?_of_magnitude (by simpa using h), rfl⟩

theorem truncate_of_toInt? (h : x.toInt? = some n) : x.truncate = n := by
  obtain ⟨hfin, m, hm, hn⟩ := toInt?_eq_some_iff.1 h
  rw [wholeMagnitude?] at hm
  rw [truncate, if_pos hfin, ← hn]
  split at hm
  · cases hm
    rfl
  · split_ifs at hm
    cases hm
    rfl

/-- The cast keeps what fits. -/
theorem toInt_toInt32 (h : x.toInt? = some n) (lo : -2147483648 ≤ n) (hi : n ≤ 2147483647) :
    x.toInt32.toInt = n := by
  have hinf : x.isInfinite = false := by
    have hexp : x.exponentField ≠ 2047 := by simpa [isFinite] using (toInt?_eq_some_iff.1 h).1
    simp [isInfinite, hexp]
  rw [toInt32, hinf, if_neg (by decide), truncate_of_toInt? h, min_eq_right hi, max_eq_right lo]
  exact Int32.toInt_ofInt_of_le (by omega) (by omega)

end Drawbridge.Double
