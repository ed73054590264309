import Drawbridge.Script.BuiltIn.Objects
import Drawbridge.Text.Upper

/-!
# Primitives and their wrappers

The built-in functions that make texts, numbers, truth values, symbols, big integers and dates, and
those that such values have.
-/

namespace Drawbridge.Script.Exec

/-- A primitive of the kind asked for, or the one that an object wraps. -/
def unwrapped (isWanted : Value → Bool) (message : String) (this : Value) : Exec Value := do
  if isWanted this then return this
  else
    match this with
    | .object r =>
      match (← read (·.object r)).nature with
      | .wrapper v => if isWanted v then return v else throwType (.ofString message)
      | _ => throwType (.ofString message)
    | _ => throwType (.ofString message)

/-- A primitive as an object. -/
def wrap (v : Value) : Exec Value := do return .object (← toObject v)

/-! ## Symbols -/

/-- A symbol as text, with the words it was made with. -/
def symbolText (s : SymbolRef) : Exec Utf16 := do
  let name ← read fun m => m.keyText (.symbol s)
  return "Symbol(" ++ name ++ ")"

/-- A new symbol, with the words that are given for it. -/
def symbolNew (args : List Value) : Exec Value := do
  let description ← match arg args 0 with
    | .undefined => pure none
    | v => some <$> toText v
  update fun m => (.symbol ⟨m.symbols.size⟩, { m with symbols := m.symbols.push description })

/-- Whether a value is a symbol, and not an object that wraps one. -/
def isSymbol : Value → Bool
  | .symbol _ => true
  | _ => false

/-- The symbol that a value is or wraps. -/
def symbolValue (this : Value) : Exec Value := unwrapped isSymbol "not a symbol" this

/-- A symbol as text. -/
def symbolToText (this : Value) : Exec Value := do
  match ← symbolValue this with
  | .symbol s => return .text (← symbolText s)
  | v => return v

/-! ## Texts -/

/-- The text that `String` makes; of a symbol too. -/
def textOf (args : List Value) : Exec Utf16 := do
  match args with
  | [] => return ""
  | .symbol s :: _ => symbolText s
  | v :: _ => toText v

/-- Whether a value is a text, and not an object that wraps one. -/
def isText : Value → Bool
  | .text _ => true
  | _ => false

/-- The text that a value is or wraps. -/
def textThis (this : Value) : Exec Value := unwrapped isText "not a string" this

/-- The text of a value that a text function is called on. -/
def subject (this : Value) : Exec Utf16 := do
  match this with
  | .undefined | .null => throwType "null or undefined are forbidden"
  | _ => toText this

/-- A text so many times over. -/
def textRepeat (this : Value) (args : List Value) : Exec Value := do
  let s ← subject this
  let x ← toNumber (arg args 0)
  if x.isInfinite || x.truncate < 0 || 2147483647 < x.truncate then
    raise .range "invalid repeat count"
  else if s.isEmpty then return .text s
  else
    let n := x.truncate.toNat
    checkLength (s.length * n)
    textValue (.replicate n s)

/-- Upper case, unit by unit where a surrogate stands alone. -/
def upperUnits : List UInt16 → List UInt16
  | [] => []
  | u :: rest =>
    let single (v : UInt16) : List UInt16 :=
      if Utf16.isHigh v || Utf16.isLow v then [v]
      else (Text.Upper.ofChar (Char.ofNat v.toNat)).flatMap Utf16.ofChar
    match rest with
    | v :: tail =>
      if Utf16.isHigh u && Utf16.isLow v then
        (Text.Upper.ofChar (Char.ofNat (Utf16.pair u v))).flatMap Utf16.ofChar ++ upperUnits tail
      else single u ++ upperUnits (v :: tail)
    | [] => single u

/-- A text in upper case. -/
def textUpper (this : Value) : Exec Value := do
  let s ← subject this
  textValue (.ofUnits (upperUnits s.units))

/-- A walk over the characters of a text. -/
def textValues (this : Value) : Exec Value := do
  newWalk .charactersProto (.characters (← subject this).units)

/-! ## Numbers -/

/-- The number that `Number` makes of its argument, 0 if there is none. -/
def numberOf (args : List Value) : Exec Value := do
  match args with
  | [] => return .int 0
  | v :: _ =>
    match ← toNumeric v with
    | .inl x => return .number x
    | .inr n => return .number (.ofInt n)

/-- Whether a value is a number, and not an object that wraps one. -/
def isNumber (v : Value) : Bool := v.double?.isSome

/-- The number that a value is or wraps. -/
def numberThis (this : Value) : Exec Value := unwrapped isNumber "not a number" this

/-- The base that an argument asks for. -/
def radix (v : Value) : Exec Nat := do
  match v with
  | .undefined => return 10
  | _ =>
    let n := (← toNumber v).truncate
    if 2 ≤ n && n ≤ 36 then return n.toNat
    else raise .range "toString() radix argument must be between 2 and 36"

/-- A number as text. Only integers are written in other bases than 10. -/
def numberToText (this : Value) (args : List Value) : Exec Value := do
  let v ← numberThis this
  let base ← radix (arg args 0)
  let x := v.double?.getD .nan
  match x.toInt? with
  | some n =>
    return .text (if base = 10 then textOfNumber x else .ofString (intInBase base n))
  | none => return .text (textOfNumber x)

/-! ## Truth values -/

/-- Whether a value is a truth value, and not an object that wraps one. -/
def isBool : Value → Bool
  | .bool _ => true
  | _ => false

/-- The truth value of the argument. -/
def boolOf (args : List Value) : Value := .bool (arg args 0).truthy

/-- The truth value that a value is or wraps. -/
def boolThis (this : Value) : Exec Value := unwrapped isBool "not a boolean" this

/-- A truth value as text. -/
def boolToText (this : Value) : Exec Value := do
  return .text (← primitiveText (← boolThis this))

/-! ## Big integers -/

/-- Whether a value is a big integer, and not an object that wraps one. -/
def isBigInt : Value → Bool
  | .bigInt _ => true
  | _ => false

/-- The big integer that the argument stands for. -/
def bigIntOf (args : List Value) : Exec Value := do
  match ← toPrimitive .number (arg args 0) with
  | .bigInt n => return .bigInt n
  | .bool b => return .bigInt (if b then 1 else 0)
  | .int n => return .bigInt n.toInt
  | .float x =>
    match x.toInt? with
    | some n => return .bigInt n
    | none => raise .range "cannot convert to BigInt: not an integer"
  | .text s =>
    match bigIntOfText? s with
    | some n => bigIntValue n
    | none => raise .syntaxError "invalid BigInt literal"
  | _ => throwType "cannot convert to BigInt"

/-- The big integer that a value is or wraps. -/
def bigIntThis (this : Value) : Exec Value := unwrapped isBigInt "not a BigInt" this

/-- A big integer as text, in any base. -/
def bigIntToText (this : Value) (args : List Value) : Exec Value := do
  let base ← radix (arg args 0)
  match ← bigIntThis this with
  | .bigInt n => return .text (.ofString (intInBase base n))
  | v => return v

/-! ## Dates -/

/-- A date by its milliseconds; one that is made of anything else is invalid. -/
def dateNew (args : List Value) : Exec Value := do
  let x ← match args with
    | [v] => toNumber v
    | _ => pure Double.nan
  newObject ⟨some Intrinsic.dateProto.ref, true, #[], .date x⟩

/-- The milliseconds of a date. -/
def dateThis (this : Value) : Exec Double := do
  match this with
  | .object r =>
    match (← read (·.object r)).nature with
    | .date x => return x
    | _ => throwType "not a Date object"
  | _ => throwType "not a Date object"

/-- The minutes that UTC is ahead of local time. -/
def dateZone (this : Value) : Exec Value := do
  let x ← dateThis this
  if !x.isFinite then return .float .nan
  else
    let offset ← read fun m => m.zone.offsetAtMillis x
    return .ofInt (-(offset.tdiv 60))

/-- The milliseconds of a date as a value. -/
def dateValue (this : Value) : Exec Value := do return .number (← dateThis this)

/-! ## Promises -/

/-- A new promise. -/
def newPromise : Exec Value := newObject ⟨some Intrinsic.promiseProto.ref, true, #[], .promise⟩

/-- A function by which a promise is settled. Nothing waits for that. -/
def settler : Exec Value :=
  newObject
    { proto := some Intrinsic.functionProto.ref
      extensible := true
      properties := #[
        (Key.ofString "length", ⟨.data (.int 1) false, false, true⟩),
        (Key.ofString "name", ⟨.data (.text "") false, false, true⟩)]
      nature := .builtIn .promiseSettle }

/-- A promise that a function works on, which is called at once. What it throws settles the
promise. -/
def promiseNew (args : List Value) : Exec Value := do
  let f := arg args 0
  if !(← read (·.isCallable f)) then throwType "not a function"
  else
    let promise ← newPromise
    let resolve ← settler
    let reject ← settler
    catching (do discard (apply f .undefined [resolve, reject])) fun _ => return
    return promise

/-- A promise stands for itself. -/
def promiseResolve (args : List Value) : Exec Value := do
  match arg args 0 with
  | .object r =>
    match (← read (·.object r)).nature with
    | .promise => return .object r
    | _ => newPromise
  | _ => newPromise

end Drawbridge.Script.Exec
