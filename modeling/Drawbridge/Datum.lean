import Drawbridge.Double
import Drawbridge.Kind

/-!
# Host values

A `Datum` is what a host method takes and returns, each of one kind.
-/

namespace Drawbridge

/-- A value that a host method takes or returns; `void` is what a method without result returns. -/
inductive Datum where
  | bool (b : Bool)
  | int (n : Int32)
  | double (x : Double)
  | text (s : String)
  | void
  deriving DecidableEq, Repr

namespace Datum

instance : Inhabited Datum := ⟨.void⟩

/-- The kind that a value is of. -/
def kind : Datum → Kind
  | bool _ => .boolean
  | int _ => .int32
  | double _ => .double
  | text _ => .string
  | void => .void

/-- The Boolean that a value is, if it is one. -/
def bool? : Datum → Option Bool
  | bool b => some b
  | _ => none

/-- The 32-bit integer that a value is, if it is one. -/
def int? : Datum → Option Int32
  | int n => some n
  | _ => none

/-- The double that a value is, if it is one. An integer is none. -/
def double? : Datum → Option Double
  | double x => some x
  | _ => none

/-- The text that a value is, if it is one. -/
def text? : Datum → Option String
  | text s => some s
  | _ => none

end Datum

end Drawbridge
