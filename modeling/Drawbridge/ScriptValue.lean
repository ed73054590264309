import Drawbridge.Datum
import Drawbridge.Text.Utf16
import Drawbridge.Decimal.Style

/-!
# Script values as the bridge sees them

Primitives cross the bridge by value; of any other script value the bridge sees its type only.
`ofDatum` hands a host value to script, `read` takes a script value as one kind of host value.
Nothing is coerced: a number is read as an integer only if it is one.
-/

namespace Drawbridge

/-- The types that scripts distinguish. A callable that `new` accepts is a `constructor`. -/
inductive ScriptType where
  | undefined | null | bool | int | float | string | symbol | bigInt | array | function
  | constructor | promise | exception | object
  deriving DecidableEq, Repr

/-- The name that messages use. -/
def ScriptType.name : ScriptType → String
  | undefined => "undefined"
  | null => "null"
  | bool => "bool"
  | int => "int"
  | float => "float"
  | string => "string"
  | symbol => "symbol"
  | bigInt => "big_int"
  | array => "array"
  | function => "function"
  | constructor => "constructor"
  | promise => "promise"
  | exception => "exception"
  | object => "object"

/-- A value of a script: a primitive by value, anything else by its type only. -/
inductive ScriptValue where
  | undefined
  | null
  | bool (b : Bool)
  | int (n : Int32)
  | float (x : Double)
  | text (s : Utf16)
  | opaqueOf (type : ScriptType)
  deriving DecidableEq, Repr

namespace ScriptValue

/-- The type of a value. -/
def type : ScriptValue → ScriptType
  | undefined => .undefined
  | null => .null
  | bool _ => .bool
  | int _ => .int
  | float _ => .float
  | text _ => .string
  | opaqueOf t => t

/-- The range of 32-bit integers. -/
def inRange32 (n : Int) : Bool := -2147483648 ≤ n && n ≤ 2147483647

/-- The 32-bit integer that a double is: it has to be between the ends of the range and whole, then
the cast keeps it. -/
def exactInt32? (x : Double) : Option Int32 :=
  let inRange := (Double.ofInt (-2147483648)).atMost x && x.atMost (Double.ofInt 2147483647)
  if inRange && x.isWhole then some x.toInt32 else none

/-- A number as script holds it: an integer where it is one of 32 bits, except for negative zero. -/
def number (x : Double) : ScriptValue :=
  match exactInt32? x with
  | some n => if x = .negZero then float x else int n
  | none => float x

/-- The script value for a host value. -/
def ofDatum : Datum → ScriptValue
  | .bool b => bool b
  | .int n => int n
  | .double x => number x
  | .text s => text (.ofString s)
  | .void => undefined

/-- The double that a 32-bit integer is. -/
def doubleOfInt (n : Int32) : Double := .ofInt n.toInt

/-- The host value of the kind asked for, or the type of the script value where it is none. -/
def read (kind : Kind) (v : ScriptValue) : Except ScriptType Datum :=
  let found : Option Datum := match kind, v with
    | .boolean, bool b => some (.bool b)
    | .int32, int n => some (.int n)
    | .int32, float x => (exactInt32? x).map .int
    | .double, int n => some (.double (doubleOfInt n))
    | .double, float x => some (.double x)
    | .string, text s => s.toString?.map .text
    | _, _ => none
  match found with
  | some d => .ok d
  | none => .error v.type

end ScriptValue

end Drawbridge
