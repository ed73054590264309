import Drawbridge.Script.BuiltIn.Primitives

/-!
# Values as JSON text

Objects with their listed keys, lists, and primitives. What JSON cannot show is left out of objects
and null in lists. An object within itself is refused.
-/

namespace Drawbridge.Script.Exec

/-- A text in quotes. Surrogates that stand alone are escaped like controls. -/
def jsonUnits : List UInt16 → List UInt16
  | [] => []
  | u :: rest =>
    let escaped (s : String) : List UInt16 := (Utf16.ofString s).units
    let hex (v : UInt16) : List UInt16 :=
      escaped ("\\u" ++ String.ofList (Double.hexDigits 4 v.toNat))
    let single (v : UInt16) : List UInt16 :=
      if v = 34 then escaped "\\\""
      else if v = 92 then escaped "\\\\"
      else if v = 8 then escaped "\\b"
      else if v = 12 then escaped "\\f"
      else if v = 10 then escaped "\\n"
      else if v = 13 then escaped "\\r"
      else if v = 9 then escaped "\\t"
      else if v < 32 || Utf16.isHigh v || Utf16.isLow v then hex v
      else [v]
    match rest with
    | v :: tail =>
      if Utf16.isHigh u && Utf16.isLow v then u :: v :: jsonUnits tail
      else single u ++ jsonUnits (v :: tail)
    | [] => single u

/-- A text as JSON has it, with its quotes. -/
def jsonText (s : Utf16) : Utf16 := "\"" ++ Utf16.ofUnits (jsonUnits s.units) ++ "\""

/-- Parts between brackets, one a line if there is an indentation. -/
def bracketed (opening closing : String) (gap indent : Utf16) (parts : List Utf16) : Utf16 :=
  if parts.isEmpty then .ofString (opening ++ closing)
  else if gap.isEmpty then
    Utf16.ofString opening ++ Utf16.join "," parts ++ Utf16.ofString closing
  else
    let inner := "\n" ++ indent ++ gap
    Utf16.ofString opening ++ inner ++ Utf16.join ("," ++ inner) parts ++ "\n" ++ indent
      ++ Utf16.ofString closing

/-- How values are written. -/
structure JsonStyle where
  /-- what a line is indented by, for each level -/
  gap : Utf16
  /-- the keys of objects that are written, where they are chosen -/
  keys : Option (List Utf16)
  /-- a function that is asked what to write in place of a value -/
  change : Option Value

/-- A number as JSON. -/
def jsonNumber (x : Double) : Utf16 := if x.isFinite then textOfNumber x else "null"

/-- What is written in place of a value found in `holder` under `key`: what its own method and the
function that is asked make of it. -/
def JsonStyle.replaced (style : JsonStyle) (holder : Value) (key : Utf16) (v : Value) :
    Exec Value := do
  let v ← match v with
    | .object _ | .bigInt _ => do
      let f ← get v "toJSON"
      if ← read (·.isCallable f) then apply f v [.text key] else pure v
    | _ => pure v
  match style.change with
  | some f => apply f holder [.text key, v]
  | none => return v

/-- A value as JSON, if it has any, found in `holder` under `key`; `around` are the objects that it
is within. -/
def json (style : JsonStyle) : Nat → List Ref → Utf16 → Value → Utf16 → Value → Exec (Option Utf16)
  | 0, _, _, _, _, _ => raise .range "Maximum call stack size exceeded"
  | n + 1, around, indent, holder, key, v => do
    let v ← style.replaced holder key v
    match v with
    | .undefined | .symbol _ => return none
    | .null => return some "null"
    | .bool b => return some (.ofString (if b then "true" else "false"))
    | .int k => return some (.ofString (toString k.toInt))
    | .float x => return some (jsonNumber x)
    | .text s => return some (jsonText s)
    | .bigInt _ => throwType "Do not know how to serialize a BigInt"
    | .object r =>
      match (← read (·.object r)).nature with
      | .closure _ | .builtIn _ | .proxy _ => return none
      | .wrapper (.text _) => return some (jsonText (← toText v))
      | .wrapper (.int _) | .wrapper (.float _) => return some (jsonNumber (← toNumber v))
      | .wrapper (.bool b) => return some (.ofString (if b then "true" else "false"))
      | .wrapper (.bigInt _) => throwType "Do not know how to serialize a BigInt"
      | nature =>
        if around.contains r then throwType "circular reference"
        else
          let deeper := indent ++ style.gap
          let isArray : Bool := match nature with
            | .array => true
            | _ => false
          if isArray then
            let parts ← (List.range (← lengthOf r)).mapM fun i => do
              let k := Utf16.ofString (toString i)
              let x ← getOf r (.text k)
              return (← json style n (r :: around) deeper v k x).getD "null"
            return some (bracketed "[" "]" style.gap indent parts)
          else
            let listed ← read fun m => (m.object r).listedKeys
            let colon := Utf16.ofString (if style.gap.isEmpty then ":" else ": ")
            let parts ← (style.keys.getD listed).filterMapM fun k => do
              match ← json style n (r :: around) deeper v k (← getOf r (.text k)) with
              | some s => return some (jsonText k ++ colon ++ s)
              | none => return none
            return some (bracketed "\x7b" "\x7d" style.gap indent parts)

/-- What an argument stands for that may be the object of a number or of a text. -/
def plainArgument (v : Value) : Exec Value := do
  match v with
  | .object r =>
    match (← read (·.object r)).nature with
    | .wrapper (.int _) | .wrapper (.float _) => return .number (← toNumber v)
    | .wrapper (.text _) => return .text (← toText v)
    | _ => return v
  | _ => return v

/-- The longest indentation of a level, in units. -/
def widestGap : Nat := 10

/-- The indentation that an argument asks for. -/
def jsonGap (v : Value) : Exec Utf16 := do
  match ← plainArgument v with
  | .text s => return ⟨s.array.take widestGap⟩
  | v =>
    match v.double? with
    | some x =>
      let n := if x.isInfinite && !x.less .zero then widestGap else min x.truncate.toNat widestGap
      return .ofString (String.ofList (List.replicate n ' '))
    | none => return ""

/-- The keys that a list chooses: its texts, and its numbers as texts. -/
def jsonKeys (r : Ref) : Exec (List Utf16) := do
  let items ← elements r
  let keys ← items.filterMapM fun x => do
    match x with
    | .text s => return some s
    | .int _ | .float _ => return some (← primitiveText x)
    | .object o =>
      match (← read (·.object o)).nature with
      | .wrapper (.text _) | .wrapper (.int _) | .wrapper (.float _) => return some (← toText x)
      | _ => return none
    | _ => return none
  return keys.eraseDups

/-- How the arguments say that values are written. -/
def jsonStyle (args : List Value) : Exec JsonStyle := do
  let (keys, change) ← match arg args 1 with
    | .object r =>
      if ← read (·.isCallable (.object r)) then pure (none, some (Value.object r))
      else
        match (← read (·.object r)).nature with
        | .array => do pure (some (← jsonKeys r), none)
        | _ => pure (none, none)
    | _ => pure (none, none)
  return ⟨← jsonGap (arg args 2), keys, change⟩

/-- A value as JSON, undefined if it has no place there. -/
def jsonStringify (args : List Value) : Exec Value := do
  let style ← jsonStyle args
  let holder ← newObject ⟨some Intrinsic.objectProto.ref, true,
    #[(Key.ofString "", .plain (arg args 0))], .plain⟩
  match ← json style (← read (·.depthLimit)) [] "" holder "" (arg args 0) with
  | some s => textValue s
  | none => return .undefined

end Drawbridge.Script.Exec
