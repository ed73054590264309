import Drawbridge.Proofs.Double.Order
import Drawbridge.Proofs.Text.Utf16
import Drawbridge.ScriptValue

/-!
# Values across the bridge

What a script makes of a host value is read back as this value, in the form that the kind asked for
has for it (`read_ofDatum`): an integer is read as the double of the same number
(`toInt?_doubleOfInt`), and a double as the integer it is.  `Reads` lists what each kind is read
from, and whatever is read has the kind asked for (`kind_of_read`).
-/

namespace Drawbridge

namespace ScriptValue

variable {x : Double} {n : Int32} {kind : Kind} {d : Datum} {v : ScriptValue}

/-! ## Integers -/

theorem natAbs_toInt_lt (n : Int32) : n.toInt.natAbs < 9007199254740992 := by
  have := n.toInt_lt
  have := n.le_toInt
  omega

/-- The tests of a double let exactly those through that denote a 32-bit integer. -/
theorem exactInt32?_eq_some_iff : exactInt32? x = some n ↔ x.toInt? = some n.toInt := by
  have passes (k : Int) (h : x.toInt? = some k) :
      ((Double.ofInt (-2147483648)).atMost x && x.atMost (Double.ofInt 2147483647)) = true
        ↔ -2147483648 ≤ k ∧ k ≤ 2147483647 := by
    rw [Bool.and_eq_true, Double.ofInt_atMost (by decide) h, Double.atMost_ofInt (by decide) h]
  simp only [exactInt32?, Option.ite_none_right_eq_some, Option.some_inj]
  constructor
  · intro ⟨tests, hn⟩
    obtain ⟨range, whole⟩ := Bool.and_eq_true_iff.1 tests
    obtain ⟨k, h⟩ := Double.isWhole_iff.1 whole
    obtain ⟨lo, hi⟩ := (passes k h).1 range
    rw [← hn, Double.toInt_toInt32 h lo hi, h]
  · intro h
    have lo : -2147483648 ≤ n.toInt := n.le_toInt
    have hi : n.toInt ≤ 2147483647 := Int.le_of_lt_add_one n.toInt_lt
    refine ⟨Bool.and_eq_true_iff.2 ⟨(passes _ h).2 ⟨lo, hi⟩, Double.isWhole_iff.2 ⟨_, h⟩⟩, ?_⟩
    rw [← Int32.toInt_inj, Double.toInt_toInt32 h lo hi]

theorem toInt?_doubleOfInt (n : Int32) : (doubleOfInt n).toInt? = some n.toInt :=
  Double.toInt?_ofInt (natAbs_toInt_lt n)

/-- Two doubles that are one integer are equal, unless one of them is negative zero. -/
theorem doubleOfInt_eq (h : exactInt32? x = some n) (hx : x ≠ .negZero) : doubleOfInt n = x :=
  Double.ofInt_of_toInt? (exactInt32?_eq_some_iff.1 h) (natAbs_toInt_lt n) hx

/-! ## Reading -/

/-- What each kind is read from. -/
inductive Reads : Kind → ScriptValue → Datum → Prop
  | bool (b : Bool) : Reads .boolean (bool b) (.bool b)
  | int (n : Int32) : Reads .int32 (int n) (.int n)
  | whole {x : Double} {n : Int32} : exactInt32? x = some n → Reads .int32 (float x) (.int n)
  | intAsDouble (n : Int32) : Reads .double (int n) (.double (doubleOfInt n))
  | double (x : Double) : Reads .double (float x) (.double x)
  | text {s : Utf16} {t : String} : s.toString? = some t → Reads .string (text s) (.text t)

theorem reads_of_read (h : read kind v = .ok d) : Reads kind v d := by
  unfold read at h
  split at h
  · exact Except.ok.inj h ▸ .bool _
  · exact Except.ok.inj h ▸ .int _
  · next x =>
    cases hx : exactInt32? x with
    | none => simp [hx] at h
    | some n =>
      rw [hx] at h
      exact Except.ok.inj h ▸ .whole hx
  · exact Except.ok.inj h ▸ .intAsDouble _
  · exact Except.ok.inj h ▸ .double _
  · next s =>
    cases hs : s.toString? with
    | none => simp [hs] at h
    | some t =>
      rw [hs] at h
      exact Except.ok.inj h ▸ .text hs
  · cases h

/-- Only what may be passed as an argument is read, and has the kind that was asked for. -/
theorem kind_of_read (h : read kind v = .ok d) : d.kind = kind ∧ kind.isParameter = true := by
  cases reads_of_read h <;> exact ⟨rfl, rfl⟩

theorem read_double_number (x : Double) : read .double (number x) = .ok (.double x) := by
  unfold number
  cases h : exactInt32? x with
  | none => rfl
  | some n =>
    by_cases hx : x = .negZero
    · simp only [hx, if_true]
      rfl
    · simp only [hx, if_false]
      rw [← doubleOfInt_eq h hx]
      rfl

theorem read_int32_number (x : Double) :
    read .int32 (number x) = match exactInt32? x with
      | some n => .ok (.int n)
      | none => .error (number x).type := by
  unfold number
  cases h : exactInt32? x with
  | none => simp [read, h]
  | some n =>
    by_cases hx : x = .negZero
    · simp [read, hx, hx ▸ h]
    · simp [read, hx]

/-- A number is neither a boolean nor a text. -/
theorem read_number (x : Double) {kind : Kind} (hk : kind ≠ .int32) (hk' : kind ≠ .double) :
    read kind (number x) = .error (number x).type := by
  obtain ⟨n, h⟩ | h : (∃ n, number x = int n) ∨ number x = float x := by
    unfold number
    split
    · split_ifs
      · exact Or.inr rfl
      · exact Or.inl ⟨_, rfl⟩
    · exact Or.inr rfl
  · rw [h]
    cases kind <;> simp_all [read]
  · rw [h]
    cases kind <;> simp_all [read]

end ScriptValue

namespace Datum

open ScriptValue

/-- A host value in the form that a kind has for it: numbers are what they are as integers and as
doubles. -/
def suited : Kind → Datum → Datum
  | .double, int n => double (doubleOfInt n)
  | .int32, double x =>
    match exactInt32? x with
    | some n => int n
    | none => double x
  | _, d => d

end Datum

namespace ScriptValue

/-- What a script makes of a host value is read as this value in the form of the kind, if it has
one. -/
theorem read_ofDatum (hk : kind.isParameter = true) (d : Datum) :
    read kind (ofDatum d)
      = if (d.suited kind).kind = kind then .ok (d.suited kind) else .error (ofDatum d).type := by
  cases d with
  | bool b => cases kind <;> rfl
  | int n => cases kind <;> rfl
  | void =>
    cases kind with
    | void | other => cases hk
    | _ => rfl
  | text s =>
    cases kind with
    | string => simp [read, ofDatum, Datum.suited, Datum.kind]
    | void | other => cases hk
    | _ => rfl
  | double x =>
    cases kind with
    | void | other => cases hk
    | double => exact read_double_number x
    | int32 =>
      rw [ofDatum, read_int32_number, Datum.suited]
      cases h : exactInt32? x <;> simp [Datum.kind]
    | boolean => exact read_number x (by decide) (by decide)
    | string => exact read_number x (by decide) (by decide)

end ScriptValue

end Drawbridge
