import Drawbridge.Decimal.Style
import Drawbridge.Json.Number
import Drawbridge.Json.Skip
import Drawbridge.Text.Quoted

/-!
# Settings of an interpreter

Limits and defaults, written as one JSON object (`render`) and read from one (`read`). A field that
the text does not name keeps its default, and keys that are no fields are passed over. A list is
read as the fields in order.
-/

namespace Drawbridge

/-- The limits of an interpreter and the file name that it uses by default. No limit is `none`. -/
structure Settings where
  /-- bytes of heap -/
  memoryLimit : Option UInt64
  /-- bytes of stack -/
  maxStackSize : Option UInt64
  /-- bytes allocated between collections -/
  gcThreshold : Option UInt64
  /-- the file named in messages where the caller names none -/
  defaultFileName : String
  deriving DecidableEq, Repr

namespace Settings

/-- The settings without limits, with `?` for the file. -/
def default : Settings := ⟨none, none, none, "?"⟩

instance : Inhabited Settings := ⟨default⟩

/-! ## Fields -/

/-- A field of the settings. -/
inductive Field where
  | memoryLimit
  | maxStackSize
  | gcThreshold
  | defaultFileName
  deriving DecidableEq, Repr

namespace Field

/-- The key of a field in a JSON object. -/
def key : Field → String
  | memoryLimit => "memory_limit"
  | maxStackSize => "max_stack_size"
  | gcThreshold => "gc_threshold"
  | defaultFileName => "default_file_name"

/-- The fields in the order in which they are written. -/
def all : List Field := [memoryLimit, maxStackSize, gcThreshold, defaultFileName]

/-- The field under a key, if there is one. -/
def ofKey? (key : String) : Option Field := all.find? (·.key == key)

end Field

/-! ## Writing -/

/-- A limit as JSON: a number, or `null` for none. -/
def renderLimit : Option UInt64 → String
  | none => "null"
  | some n => toString n.toNat

/-- The value of a field as JSON. -/
def renderField (s : Settings) : Field → String
  | .memoryLimit => renderLimit s.memoryLimit
  | .maxStackSize => renderLimit s.maxStackSize
  | .gcThreshold => renderLimit s.gcThreshold
  | .defaultFileName => Json.write s.defaultFileName

/-- The settings as one compact JSON object with all fields. -/
def render (s : Settings) : String :=
  "\x7b" ++ ",".intercalate (Field.all.map fun f => Json.write f.key ++ ":" ++ s.renderField f)
    ++ "\x7d"

/-! ## Reading -/

open Json (Number Reader)

/-- How a message names a number of another type. -/
def describeNumber : Number → String
  | .natural n => "integer `" ++ toString n.toNat ++ "`"
  | .negative n => "integer `-" ++ toString n ++ "`"
  | .double x => "floating point `" ++ Decimal.Style.settings.render x ++ "`"

/-- Refuses the value that comes next, which is not of the type asked for. -/
def refuse {α : Type} (expected : String) : Reader α := do
  let found ← match ← Reader.peek? with
    | some 'n' => Reader.advance *> Reader.word ['u', 'l', 'l'] *> pure "null"
    | some 't' => Reader.advance *> Reader.word ['r', 'u', 'e'] *> pure "boolean `true`"
    | some 'f' => Reader.advance *> Reader.word ['a', 'l', 's', 'e'] *> pure "boolean `false`"
    | some '-' => do
      Reader.advance
      pure (describeNumber (← Number.read false))
    | some '"' => do
      Reader.advance
      pure ("string " ++ quoted (← Reader.text))
    | some '[' => pure "sequence"
    | some '\x7b' => pure "map"
    | some c =>
      if c.isDigit then do pure (describeNumber (← Number.read true))
      else Reader.failNext .expectedValue
    | none => Reader.failNext .expectedValue
  Reader.fail (.wrongType found expected)

/-- An unsigned integer of 64 bits, or null for no limit. -/
def readLimit : Reader (Option UInt64) := do
  let number (positive : Bool) : Reader (Option UInt64) := do
    match ← Number.read positive with
    | .natural n => pure (some n)
    | .negative n => Reader.fail (.wrongValue (describeNumber (.negative n)) "usize")
    | .double x => Reader.fail (.wrongType (describeNumber (.double x)) "usize")
  match ← Reader.peekToken? with
  | none => Reader.failNext .endInValue
  | some c =>
    if c = 'n' then Reader.advance *> Reader.word ['u', 'l', 'l'] *> pure none
    else if c = '-' then Reader.advance *> number false
    else if c.isDigit then number true
    else refuse "usize"

/-- The name of a file, which is a string. -/
def readName : Reader String := do
  match ← Reader.peekToken? with
  | none => Reader.failNext .endInValue
  | some '"' => Reader.advance *> Reader.text
  | some _ => refuse "a string"

/-- The settings with one field as the text has it. -/
def readField (s : Settings) : Field → Reader Settings
  | .memoryLimit => do return { s with memoryLimit := ← readLimit }
  | .maxStackSize => do return { s with maxStackSize := ← readLimit }
  | .gcThreshold => do return { s with gcThreshold := ← readLimit }
  | .defaultFileName => do return { s with defaultFileName := ← readName }

/-- A repeated field. The place is where the object would go on, behind a closing brace. -/
def duplicate {α : Type} (f : Field) : Reader α := do
  match ← Reader.peekToken? with
  | some '\x7d' => Reader.advance
  | _ => pure ()
  Reader.fail (.duplicateField f.key)

/-- The colon between a key and its value. -/
def readColon : Reader Unit := do
  match ← Reader.peekToken? with
  | some ':' => Reader.advance
  | some _ => Reader.failNext .expectedColon
  | none => Reader.failNext .endInObject

/-- One member of the object, from the quote of its key on. -/
def readMember (s : Settings) (seen : List Field) : Reader (Settings × List Field) := do
  Reader.advance
  let key ← Reader.text
  match Field.ofKey? key with
  | some f =>
    if seen.contains f then duplicate f
    else
      readColon
      let s ← readField s f
      return (s, f :: seen)
  | none =>
    readColon
    Reader.skip
    return (s, seen)

/-- The members after the first; `n` bounds their number. -/
def readMembers : Nat → Settings → List Field → Reader Settings
  | 0, _, _ => Reader.failNext .endInObject
  | n + 1, s, seen => do
    match ← Reader.peekToken? with
    | none => Reader.failNext .endInObject
    | some '\x7d' => Reader.advance *> pure s
    | some ',' =>
      Reader.advance
      match ← Reader.peekToken? with
      | some '"' =>
        let (s, seen) ← readMember s seen
        readMembers n s seen
      | some '\x7d' => Reader.failNext .trailingComma
      | some _ => Reader.failNext .keyNotString
      | none => Reader.failNext .endInValue
    | some _ => Reader.failNext .expectedObjectComma

/-- An object, its brace read. -/
def readObject : Reader Settings := do
  match ← Reader.peekToken? with
  | none => Reader.failNext .endInObject
  | some '\x7d' => Reader.advance *> pure default
  | some '"' =>
    let (s, seen) ← readMember default []
    readMembers (← Reader.fuel) s seen
  | some _ => Reader.failNext .keyNotString

/-- The end of a list after its last field. -/
def readListEnd : Reader Unit := do
  match ← Reader.peekToken? with
  | some ']' => Reader.advance
  | some ',' =>
    Reader.advance
    match ← Reader.peekToken? with
    | some ']' => Reader.failNext .trailingComma
    | _ => Reader.failNext .trailingCharacters
  | some _ => Reader.failNext .trailingCharacters
  | none => Reader.failNext .endInList

/-- The fields of a list that are still to come. -/
def readItems (first : Bool) : List Field → Settings → Reader Settings
  | [], s => readListEnd *> pure s
  | f :: rest, s => do
    match ← Reader.peekToken? with
    | none => Reader.failNext .endInList
    | some ']' => Reader.advance *> pure s
    | some c =>
      if first then
        let s ← readField s f
        readItems false rest s
      else if c = ',' then
        Reader.advance
        match ← Reader.peekToken? with
        | some ']' => Reader.failNext .trailingComma
        | some _ =>
          let s ← readField s f
          readItems false rest s
        | none => Reader.failNext .endInValue
      else Reader.failNext .expectedListComma

/-- The whole text. -/
def reader : Reader Settings := do
  let s ← match ← Reader.peekToken? with
    | none => Reader.failNext .endInValue
    | some '\x7b' => Reader.advance *> readObject
    | some '[' => Reader.advance *> readItems true Field.all default
    | some _ => refuse "struct EngineConfig"
  match ← Reader.peekToken? with
  | none => return s
  | some _ => Reader.failNext .trailingCharacters

/-- The settings that a JSON text holds. -/
def read (text : String) : Except Json.Fault Settings :=
  (·.1) <$> reader.run (Json.Cursor.start text)

/-! ## Faults -/

/-- Why there are no settings. -/
inductive Fault where
  | unreadable (path reason : String)
  | malformed (fault : Json.Fault)
  deriving DecidableEq, Repr

/-- What the host is told. -/
def Fault.message : Fault → String
  | unreadable path reason => "failed to read config '" ++ path ++ "': " ++ reason
  | malformed fault => "invalid config: " ++ fault.message

/-- Reads the content of a file, or says why it cannot be read. -/
def load (path : String) (content : Except String String) : Except Fault Settings :=
  match content with
  | .error reason => .error (.unreadable path reason)
  | .ok text =>
    match read text with
    | .ok s => .ok s
    | .error fault => .error (.malformed fault)

end Settings

end Drawbridge
