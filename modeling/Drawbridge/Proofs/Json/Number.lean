import Drawbridge.Json.Number
import Drawbridge.Proofs.Json.Grammar
import Drawbridge.Proofs.Json.Reader

/-!
# JSON numbers read

Digits whose value has 64 bits are read as this value (`takes_read_digits`), whatever comes after them
that is no part of a number.  No other number is read as a natural one: none with a minus sign
(`yields_read_negative`), and none that is larger or has a fraction or an exponent (`yields_read`).
-/

namespace Drawbridge.Json.Number

open Reader

variable {n : Nat} {ds rest : List Char}

theorem le_ofDigitChars (ds : List Char) (n : Nat) : n ≤ Nat.ofDigitChars 10 ds n := by
  induction ds generalizing n with
  | nil => exact Nat.le_refl n
  | cons d ds ih =>
    have more : n ≤ 10 * n + (d.toNat - '0'.toNat) := by omega
    exact Nat.le_trans more (ih _)

/-- Digits are taken in as long as their value fits. -/
theorem absorb_of_lt (ds : List Char) (h : Nat.ofDigitChars 10 ds n < UInt64.size) :
    absorb n ds = (Nat.ofDigitChars 10 ds n, []) := by
  induction ds generalizing n with
  | nil => rfl
  | cons d ds ih =>
    have small : 10 * n + digitValue d < UInt64.size := Nat.lt_of_le_of_lt (le_ofDigitChars ds _) h
    rw [absorb, if_pos small]
    exact ih h

/-- Digits whose value is too large leave some behind. -/
theorem ofDigitChars_of_absorb {ds : List Char} {m : Nat} (h : absorb n ds = (m, [])) :
    Nat.ofDigitChars 10 ds n = m := by
  induction ds generalizing n with
  | nil => exact (Prod.mk.inj h).1
  | cons d ds ih =>
    rw [absorb] at h
    split_ifs at h
    · exact ih h
    · cases h

theorem absorb_lt {ds left : List Char} {m : Nat} (hn : n < UInt64.size)
    (h : absorb n ds = (m, left)) : m < UInt64.size := by
  induction ds generalizing n with
  | nil => exact (Prod.mk.inj h).1 ▸ hn
  | cons d ds ih =>
    rw [absorb] at h
    split_ifs at h with small
    · exact ih small h
    · exact (Prod.mk.inj h).1 ▸ hn

/-- Either the one zero or the run of digits. -/
theorem takes_numerals {c : Char} (whole : Whole ds) (hc : ds.head? = some c)
    (stop : ∀ c ∈ rest.head?, c.isDigit = false) :
    (if c = '0' then Reader.advance *> pure ['0'] else Reader.digits).Takes (ds ++ rest) ds rest := by
  by_cases zero : c = '0'
  · -- no digit comes behind a zero in front
    subst zero
    rw [whole.2 hc, if_pos rfl]
    exact (takes_advance '0' rest).seqRight (takes_pure _ rest)
  · rw [if_neg zero]
    exact takes_digits whole.1.2 stop

theorem head?_whole (whole : Whole ds) (rest : List Char) :
    ∃ c, ds.head? = some c ∧ (ds ++ rest).head? = some c ∧ c.isDigit = true := by
  obtain ⟨c, tail, rfl, digit⟩ := whole.exists_cons
  exact ⟨c, rfl, rfl, digit⟩

theorem takes_read_digits (whole : Whole ds) (fits : Nat.ofDigitChars 10 ds 0 < UInt64.size)
    (ends : Ends rest) :
    (read true).Takes (ds ++ rest) (.natural (Nat.ofDigitChars 10 ds 0).toUInt64) rest := by
  obtain ⟨c, hc, head, digit⟩ := head?_whole whole rest
  refine (takes_peek? _).bind ?_
  simp only [head, digit, ← ite_bind]
  refine (takes_numerals whole hc fun c hc => (ends c hc).1).bind ?_
  simp only [absorb_of_lt _ fits]
  refine (takes_peek? rest).bind ?_
  cases hrest : rest.head? with
  | none => exact takes_pure _ rest
  | some d =>
    obtain ⟨notDigit, point, small, big⟩ := ends d hrest
    split
    · next h => exact absurd (Option.some.inj h) point
    · next h => exact absurd (Option.some.inj h) small
    · next h => exact absurd (Option.some.inj h) big
    · next h =>
      obtain rfl := Option.some.inj h
      rw [notDigit, Bool.and_false]
      exact takes_pure _ rest
    · next h => cases h

/-- The digits of a number are a whole part. -/
theorem whole_toDigits (n : Nat) : Whole (Nat.toDigits 10 n) := by
  refine ⟨⟨Nat.toDigits_ne_nil, fun d => isDigit_of_mem_toDigits⟩, fun zero => ?_⟩
  by_cases hn : n = 0
  · rw [hn]
    rfl
  · exact absurd zero (head?_toDigits_ne_zero hn)

theorem takes_read_toDigits (hn : n < UInt64.size) (ends : Ends rest) :
    (read true).Takes (Nat.toDigits 10 n ++ rest) (.natural n.toUInt64) rest := by
  have value : Nat.ofDigitChars 10 (Nat.toDigits 10 n) 0 = n := Nat.ofDigitChars_ten_toDigits
  have number := takes_read_digits (whole_toDigits n) (by rwa [value]) ends
  rwa [value] at number

/-! ## Numbers that are not natural -/

/-- A number that is read as something else than a natural one. -/
def NotNatural (x : Number) : Prop := ∀ n, x ≠ .natural n

variable {positive : Bool} {m : Nat} {start : Int}

theorem yields_ofParts (input : List Char) :
    (ofParts positive m start).Yields input NotNatural := by
  unfold ofParts
  split
  · exact yields_pure (fun _ => nofun) input
  · exact (fails_fail _ input).yields

theorem yields_readExponent (input : List Char) :
    (readExponent positive m start).Yields input NotNatural := by
  unfold readExponent
  refine yields_bind (fun _ _ => yields_bind (fun sign _ => ?_) _) _
  extract_lets value
  have later (up : Bool) (input : List Char) : (value up).Yields input NotNatural := by
    refine yields_bind (fun c _ => ?_) _
    split
    · exact (fails_fail _ _).yields
    · split
      · exact (fails_failNext _ _).yields
      · refine yields_bind (fun before _ => yields_bind (fun ds _ => ?_) _) _
        split
        · exact yields_ofParts _
        · split
          · exact Fails.yields fun _ _ => ⟨_, rfl⟩
          · exact yields_pure (fun _ => nofun) _
  split
  · exact yields_bind (fun _ _ => later true _) _
  · exact yields_bind (fun _ _ => later false _) _
  · exact later true _

theorem yields_readFraction (input : List Char) :
    (readFraction positive m start).Yields input NotNatural := by
  unfold readFraction
  refine yields_bind (fun _ _ => yields_bind (fun ds _ => ?_) _) _
  split
  · refine yields_bind (fun c _ => ?_) _
    split
    · exact (fails_failNext _ _).yields
    · exact (fails_failNext _ _).yields
  · refine yields_bind (fun c _ => ?_) _
    split
    · exact yields_readExponent _
    · exact yields_readExponent _
    · exact yields_ofParts _

/-- With its minus sign read, no number is natural. -/
theorem yields_read_negative (input : List Char) : (read false).Yields input NotNatural := by
  have notNatural (m : Nat) : NotNatural (ofInteger false m) := by
    intro n h
    unfold ofInteger at h
    simp only [Bool.false_eq_true, if_false] at h
    split at h <;> cases h
  unfold read
  refine yields_bind (fun c _ => ?_) _
  split
  · exact (fails_fail _ _).yields
  · split
    · exact (fails_failNext _ _).yields
    · extract_lets number
      have later (ds : List Char) (input : List Char) : (number ds).Yields input NotNatural := by
        refine yields_bind (fun c _ => ?_) _
        split
        · exact yields_readFraction _
        · exact yields_readExponent _
        · exact yields_readExponent _
        · split
          · exact (fails_failNext _ _).yields
          · split
            · exact yields_pure (notNatural _) _
            · exact yields_ofParts _
        · split
          · exact yields_pure (notNatural _) _
          · exact yields_ofParts _
      split
      · exact yields_bind (fun _ _ => later _ _) _
      · exact yields_bind (fun _ _ => later _ _) _

/-- A number with a fraction or an exponent, or too large for 64 bits, is not natural. -/
theorem yields_read {f e : List Char} (whole : Whole ds) (hf : Fraction f) (he : Exponent e)
    (ends : Ends rest)
    (large : f = [] → e = [] → UInt64.size ≤ Nat.ofDigitChars 10 ds 0) :
    (read true).Yields (ds ++ (f ++ (e ++ rest))) NotNatural := by
  obtain ⟨c, hc, head, digit⟩ := head?_whole whole (f ++ (e ++ rest))
  refine (takes_peek? _).bind_yields ?_
  simp only [head, digit, ← ite_bind]
  refine (takes_numerals whole hc (head?_fraction hf he ends)).bind_yields ?_
  cases habsorb : absorb 0 ds with
  | mk m left =>
  -- all digits are taken in only if the number fits, and then something else comes behind them
  have overflow (point : (f ++ (e ++ rest)).head? ≠ some '.')
      (small : (f ++ (e ++ rest)).head? ≠ some 'e') (big : (f ++ (e ++ rest)).head? ≠ some 'E') :
      left.isEmpty = false := by
    obtain rfl := eq_nil_of_head?_fraction hf point
    have tooLarge := large rfl (eq_nil_of_head?_exponent he small big)
    rw [List.isEmpty_eq_false_iff]
    rintro rfl
    rw [ofDigitChars_of_absorb habsorb] at tooLarge
    exact absurd (absorb_lt (by decide) habsorb) (Nat.not_lt.2 tooLarge)
  refine (takes_peek? _).bind_yields ?_
  split
  · exact yields_readFraction _
  · exact yields_readExponent _
  · exact yields_readExponent _
  · next d point small big hd =>
    split
    · exact (fails_failNext _ _).yields
    · rw [overflow (hd ▸ fun h => point (Option.some.inj h)) (hd ▸ fun h => small (Option.some.inj h))
        (hd ▸ fun h => big (Option.some.inj h))]
      exact yields_ofParts _
  · next hd =>
    rw [overflow (hd ▸ nofun) (hd ▸ nofun) (hd ▸ nofun)]
    exact yields_ofParts _

end Drawbridge.Json.Number
