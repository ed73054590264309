import Drawbridge.Proofs.ScriptValue.RoundTrip

/-!
# Reading without coercion

What is read of a number is the number.  An integer is read from the numbers that are one of 32
bits, however they are held (`read_int32_iff`, `exists_read_int32_iff`), and a double from all
numbers (`read_double_iff`); anything else is read under its own kind only (`read_exact`).
-/

namespace Drawbridge.ScriptValue

open Double (Amount)

variable {kind : Kind} {d : Datum} {v : ScriptValue} {n : Int32} {x : Double} {t : ScriptType}

/-- The double that a number is: of the two zeros the positive one for the integer, and the bits of
a double as they are. -/
inductive AsDouble : ScriptValue → Double → Prop
  | int {n : Int32} {x : Double} : x.amount = .finite n.toInt → x ≠ .negZero → AsDouble (int n) x
  | float (x : Double) : AsDouble (float x) x

theorem AsDouble.amount? (h : AsDouble v x) : v.amount? = some x.amount := by
  cases h with
  | int hx _ => exact congrArg some hx.symm
  | float x => rfl

/-! ## Integers -/

theorem amount?_float_iff : (float x).amount? = some (.finite n.toInt) ↔ exactInt32? x = some n := by
  rw [exactInt32?_eq_some_iff, ← Double.amount_eq_iff]
  exact Option.some_inj

theorem read_int32_iff :
    read .int32 v = .ok d ↔ ∃ n : Int32, d = .int n ∧ v.amount? = some (.finite n.toInt) := by
  constructor
  · intro h
    cases reads_of_read h with
    | int n => exact ⟨n, rfl, rfl⟩
    | whole hx => exact ⟨_, rfl, amount?_float_iff.2 hx⟩
  · rintro ⟨n, rfl, h⟩
    cases v with
    | int m =>
      have hm : (m.toInt : ℚ) = n.toInt := Amount.finite.inj (Option.some.inj h)
      rw [Int32.toInt_inj.1 (Int.cast_inj.1 hm)]
      rfl
    | float x =>
      rw [read, amount?_float_iff.1 h]
      rfl
    | _ => cases h

/-- A number is read as an integer exactly if it is one from `-2 ^ 31` to `2 ^ 31 - 1`. -/
theorem exists_read_int32_iff :
    (∃ d, read .int32 v = .ok d)
      ↔ ∃ k : ℤ, -2 ^ 31 ≤ k ∧ k ≤ 2 ^ 31 - 1 ∧ v.amount? = some (.finite k) := by
  simp only [read_int32_iff]
  constructor
  · rintro ⟨-, n, -, h⟩
    exact ⟨n.toInt, n.le_toInt, Int.le_sub_one_of_lt n.toInt_lt, h⟩
  · rintro ⟨k, lo, hi, h⟩
    have hk : (Int32.ofInt k).toInt = k := Int32.toInt_ofInt_of_le (by omega) (by omega)
    exact ⟨_, .ofInt k, rfl, hk.symm ▸ h⟩

/-! ## Doubles -/

theorem doubleOfInt_ne_negZero (n : Int32) : doubleOfInt n ≠ .negZero := by
  intro h
  have zero : n = 0 := by
    have hn : some n.toInt = some 0 := (toInt?_doubleOfInt n).symm.trans (h ▸ by decide +kernel)
    exact Int32.toInt_inj.1 (Option.some.inj hn)
  exact absurd (zero ▸ h) (by decide)

theorem read_double_iff : read .double v = .ok d ↔ ∃ x, d = .double x ∧ AsDouble v x := by
  constructor
  · intro h
    cases reads_of_read h with
    | intAsDouble n => exact ⟨_, rfl, .int (amount_doubleOfInt n) (doubleOfInt_ne_negZero n)⟩
    | double x => exact ⟨x, rfl, .float x⟩
  · rintro ⟨x, rfl, h⟩
    cases h with
    | @int n _ hx hz =>
      rw [← doubleOfInt_eq (exactInt32?_eq_some_iff.2 (Double.amount_eq_iff.1 hx)) hz]
      rfl
    | float x => rfl

theorem isSome_amount?_iff : v.amount?.isSome = true ↔ ∃ x, AsDouble v x := by
  constructor
  · intro h
    cases v with
    | int n => exact ⟨_, .int (amount_doubleOfInt n) (doubleOfInt_ne_negZero n)⟩
    | float x => exact ⟨x, .float x⟩
    | _ => cases h
  · rintro ⟨x, h⟩
    rw [h.amount?]
    rfl

/-! ## Any kind -/

theorem type_of_read_error (h : read kind v = .error t) : t = v.type := by
  unfold read at h
  extract_lets found at h
  clear_value found
  cases found with
  | some d => cases h
  | none => exact (Except.error.inj h).symm

theorem read_bool_iff {b : Bool} :
    read kind (bool b) = .ok d ↔ kind = .boolean ∧ d = .bool b := by
  constructor
  · intro h
    cases reads_of_read h
    exact ⟨rfl, rfl⟩
  · rintro ⟨rfl, rfl⟩
    rfl

theorem read_text_eq_ok_iff {s : Utf16} :
    read kind (text s) = .ok d ↔ kind = .string ∧ ∃ u, d = .text u ∧ s.toString? = some u := by
  constructor
  · intro h
    cases reads_of_read h with
    | text hs => exact ⟨rfl, _, rfl, hs⟩
  · rintro ⟨rfl, u, rfl, hs⟩
    simp [read, hs]

/-- A number is read exactly: as an integer if it is one of 32 bits, as a double always, and by both
kinds as the same number.  A boolean and a text are read under their own kind, nothing is under
`void` or a kind with another name, and a refusal names the type of the value. -/
theorem read_exact (v : ScriptValue) :
    (∀ d, read .int32 v = .ok d ↔ ∃ n : Int32, d = .int n ∧ v.amount? = some (.finite n.toInt)) ∧
    ((∃ d, read .int32 v = .ok d)
      ↔ ∃ k : ℤ, -2 ^ 31 ≤ k ∧ k ≤ 2 ^ 31 - 1 ∧ v.amount? = some (.finite k)) ∧
    (∀ d, read .double v = .ok d ↔ ∃ x, d = .double x ∧ AsDouble v x) ∧
    ((∃ d, read .double v = .ok d) ↔ v.amount?.isSome = true) ∧
    (∀ d e, read .int32 v = .ok d → read .double v = .ok e →
      ∃ n x, d = .int n ∧ e = .double x ∧ x.amount = .finite n.toInt) ∧
    (∀ b kind d, v = bool b → (read kind v = .ok d ↔ kind = .boolean ∧ d = .bool b)) ∧
    (∀ s kind d, v = text s →
      (read kind v = .ok d ↔ kind = .string ∧ ∃ u, d = .text u ∧ s.toString? = some u)) ∧
    (∀ d name, read .void v ≠ .ok d ∧ read (.other name) v ≠ .ok d) ∧
    ∀ kind t, read kind v = .error t → t.name = v.type.name := by
  refine ⟨fun d => read_int32_iff, exists_read_int32_iff, fun d => read_double_iff, ?number, ?both,
    ?bool, ?text, ?none, fun kind t h => congrArg _ (type_of_read_error h)⟩
  case number =>
    simp only [read_double_iff, isSome_amount?_iff]
    exact ⟨fun ⟨_, x, _, h⟩ => ⟨x, h⟩, fun ⟨x, h⟩ => ⟨_, x, rfl, h⟩⟩
  case both =>
    intro d e hd he
    obtain ⟨n, rfl, hn⟩ := read_int32_iff.1 hd
    obtain ⟨x, rfl, hx⟩ := read_double_iff.1 he
    exact ⟨n, x, rfl, rfl, Option.some.inj (hx.amount?.symm.trans hn)⟩
  case bool =>
    rintro b kind d rfl
    exact read_bool_iff
  case text =>
    rintro s kind d rfl
    exact read_text_eq_ok_iff
  case none =>
    refine fun d name => ⟨fun h => ?_, fun h => ?_⟩
    · exact absurd (kind_of_read h).2 (by decide)
    · exact absurd (kind_of_read h).2 Bool.false_ne_true

/-- Negative zero is the integer 0, and next to the range there is none: the double below
`-2 ^ 31`, the one above `2 ^ 31 - 1` and `2 ^ 31`. -/
example :
    exactInt32? .negZero = some 0 ∧ exactInt32? (.ofInt (-2147483648)) = some (-2147483648) ∧
    exactInt32? ⟨0xc1e0000000000001⟩ = none ∧ exactInt32? ⟨0x41dfffffffc00001⟩ = none ∧
    exactInt32? (.ofInt 2147483648) = none := by
  decide +kernel

end Drawbridge.ScriptValue
