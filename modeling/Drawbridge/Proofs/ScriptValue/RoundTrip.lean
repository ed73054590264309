import Drawbridge.Proofs.Double.Amount
import Drawbridge.Proofs.ScriptValue

/-!
# Round trips across the bridge

A host value comes back from script bit for bit.  A script value that is read and handed back is
the `Same` primitive: a number may change its type, from an integer to a double or back, but never
what it amounts to (`same_of_read`).  Text is read unless a surrogate in it stands alone
(`read_text_iff`).
-/

namespace Drawbridge.ScriptValue

open Double (Amount)

variable {kind : Kind} {d : Datum} {v : ScriptValue}

/-- What a number amounts to, whether it is held as an integer or as a double. -/
def amount? : ScriptValue → Option Amount
  | int n => some (.finite n.toInt)
  | float x => some x.amount
  | _ => none

/-- One primitive, in one form or two. -/
inductive Same : ScriptValue → ScriptValue → Prop
  | bool (b : Bool) : Same (bool b) (bool b)
  | number {v w : ScriptValue} {q : Amount} :
      v.amount? = some q → w.amount? = some q → Same v w
  | text {s t : Utf16} : s.units = t.units → Same (text s) (text t)

theorem amount_of_exactInt32? {x : Double} {n : Int32} (h : exactInt32? x = some n) :
    x.amount = .finite n.toInt :=
  Double.amount_of_toInt? (exactInt32?_eq_some_iff.1 h)

theorem amount_doubleOfInt (n : Int32) : (doubleOfInt n).amount = .finite n.toInt :=
  Double.amount_of_toInt? (toInt?_doubleOfInt n)

theorem amount?_number (x : Double) : (number x).amount? = some x.amount := by
  unfold number
  cases h : exactInt32? x with
  | none => rfl
  | some n =>
    split_ifs
    · rfl
    · rw [amount_of_exactInt32? h]
      rfl

/-- What is read is, handed back, the primitive that it was. -/
theorem same_of_read (h : read kind v = .ok d) : Same v (ofDatum d) := by
  cases reads_of_read h with
  | bool b => exact .bool b
  | int n => exact .number rfl rfl
  | whole hx => exact .number (congrArg some (amount_of_exactInt32? hx)) rfl
  | intAsDouble n =>
    refine .number rfl ?_
    rw [ofDatum, amount?_number, amount_doubleOfInt]
  | double x => exact .number rfl (amount?_number x)
  | text hs =>
    refine .text ?_
    rw [Utf16.ofString_of_decode (Utf16.toString?_eq_some_iff.1 hs)]

/-- Every host value with something in it comes back as it was. -/
theorem read_ofDatum_self (hd : d ≠ .void) : read d.kind (ofDatum d) = .ok d := by
  cases d with
  | bool b => rfl
  | int n => rfl
  | double x => exact read_double_number x
  | text s => simp [read, ofDatum, Datum.kind]
  | void => exact absurd rfl hd

theorem read_text_iff (s : Utf16) :
    (∃ d, read .string (text s) = .ok d) ↔ Utf16.Paired s.units := by
  rw [← Utf16.exists_toString?_iff]
  constructor
  · rintro ⟨d, h⟩
    cases reads_of_read h with | @text _ t hs => exact ⟨t, hs⟩
  · rintro ⟨t, hs⟩
    exact ⟨.text t, by simp [read, hs]⟩

/-- Host values come back bit for bit, script values as the same primitive, and text is read just
if its units are well formed. -/
theorem round_trip :
    (∀ d : Datum, d ≠ .void → read d.kind (ofDatum d) = .ok d) ∧
    (∀ (v : ScriptValue) (kind : Kind) (d : Datum), read kind v = .ok d → Same v (ofDatum d)) ∧
    ∀ s : Utf16, (∃ d, read .string (text s) = .ok d) ↔ Utf16.Paired s.units :=
  ⟨fun _ => read_ofDatum_self, fun _ _ _ => same_of_read, read_text_iff⟩

/-- Negative zero keeps its sign, a whole double is one with its integer, and half a pair is no
text. -/
theorem round_trip_negZero :
    read .double (ofDatum (.double .negZero)) = .ok (.double .negZero) ∧
    Same (float (doubleOfInt 2)) (ofDatum (.int 2)) ∧
    ¬ ∃ d, read .string (text (.ofUnits [0x61, 0xD83D])) = .ok d := by
  have whole : exactInt32? (doubleOfInt 2) = some 2 :=
    exactInt32?_eq_some_iff.2 (toInt?_doubleOfInt 2)
  have taken : read .int32 (float (doubleOfInt 2)) = .ok (.int 2) := by
    rw [read, whole]
    rfl
  refine ⟨round_trip.1 (.double .negZero) (by decide), round_trip.2.1 _ .int32 (.int 2) taken, ?_⟩
  rw [round_trip.2.2]
  intro paired
  obtain ⟨v, hv, -⟩ := paired.high 1 0xD83D rfl (by decide)
  cases hv

end Drawbridge.ScriptValue
