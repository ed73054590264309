/-!
# Reading JSON text

A `Cursor` is the text still to be read and the place reached, with columns counted in bytes of
UTF-8. A `Reader` moves it on, or stops with a `Fault` at a place: at the cursor or a number of
bytes after it, never beyond the end.
-/

namespace Drawbridge.Json

/-- Why a text is not read further. -/
inductive Reason where
  | endInValue
  | endInList
  | endInObject
  | endInString
  | expectedValue
  | expectedIdent
  | expectedColon
  | expectedListComma
  | expectedObjectComma
  | keyNotString
  | trailingComma
  | trailingCharacters
  | invalidNumber
  | numberOutOfRange
  | invalidEscape
  | controlCharacter
  | loneSurrogate
  | endOfHexEscape
  /-- a value of another type than the one asked for -/
  | wrongType (found expected : String)
  /-- a value of the type asked for, but out of its range -/
  | wrongValue (found expected : String)
  | duplicateField (name : String)
  deriving DecidableEq, Repr

/-- What is said of the reason. -/
def Reason.message : Reason → String
  | endInValue => "EOF while parsing a value"
  | endInList => "EOF while parsing a list"
  | endInObject => "EOF while parsing an object"
  | endInString => "EOF while parsing a string"
  | expectedValue => "expected value"
  | expectedIdent => "expected ident"
  | expectedColon => "expected `:`"
  | expectedListComma => "expected `,` or `]`"
  | expectedObjectComma => "expected `,` or `\x7d`"
  | keyNotString => "key must be a string"
  | trailingComma => "trailing comma"
  | trailingCharacters => "trailing characters"
  | invalidNumber => "invalid number"
  | numberOutOfRange => "number out of range"
  | invalidEscape => "invalid escape"
  | controlCharacter => "control character (\\u0000-\\u001F) found while parsing a string"
  | loneSurrogate => "lone leading surrogate in hex escape"
  | endOfHexEscape => "unexpected end of hex escape"
  | wrongType found expected => "invalid type: " ++ found ++ ", expected " ++ expected
  | wrongValue found expected => "invalid value: " ++ found ++ ", expected " ++ expected
  | duplicateField name => "duplicate field `" ++ name ++ "`"

/-- A reason and the place that it is about, lines counted from 1 and columns from 0. -/
structure Fault where
  reason : Reason
  line : Nat
  column : Nat
  deriving DecidableEq, Repr

/-- The reason and the place in words. -/
def Fault.message (fault : Fault) : String :=
  fault.reason.message ++ " at line " ++ toString fault.line ++ " column " ++ toString fault.column

/-- The text still to be read, and where in the whole text it begins. -/
structure Cursor where
  rest : List Char
  line : Nat
  column : Nat
  deriving DecidableEq, Repr

namespace Cursor

/-- The cursor before a text. -/
def start (s : String) : Cursor := ⟨s.toList, 1, 0⟩

/-- The cursor after its first character. -/
def next : Cursor → Cursor
  | ⟨[], line, column⟩ => ⟨[], line, column⟩
  | ⟨c :: rest, line, column⟩ =>
    if c = '\n' then ⟨rest, line + 1, 0⟩ else ⟨rest, line, column + c.utf8Size⟩

/-- The line and column so many bytes on. -/
def placeAfter : Nat → List Char → Nat → Nat → Nat × Nat
  | _, [], line, column => (line, column)
  | bytes, c :: rest, line, column =>
    if bytes < c.utf8Size then (line, column + bytes)
    else if c = '\n' then placeAfter (bytes - 1) rest (line + 1) 0
    else placeAfter (bytes - c.utf8Size) rest line (column + c.utf8Size)

/-- A fault so many bytes after the cursor. -/
def faultAfter (c : Cursor) (bytes : Nat) (reason : Reason) : Fault :=
  let (line, column) := placeAfter bytes c.rest c.line c.column
  ⟨reason, line, column⟩

/-- The number of bytes still to be read. -/
def remaining (c : Cursor) : Nat := (String.ofList c.rest).utf8ByteSize

end Cursor

/-- Reads something from a cursor on, or stops with a fault. -/
abbrev Reader := StateT Cursor (Except Fault)

namespace Reader

variable {α : Type}

/-- Stops so many bytes after the cursor. -/
def failAfter (bytes : Nat) (reason : Reason) : Reader α := fun c =>
  .error (c.faultAfter bytes reason)

/-- Stops at the cursor. -/
def fail (reason : Reason) : Reader α := failAfter 0 reason

/-- Stops one byte after the cursor, behind the byte that does not fit. -/
def failNext (reason : Reason) : Reader α := failAfter 1 reason

/-- The next character, which is not read. -/
def peek? : Reader (Option Char) := fun c => .ok (c.rest.head?, c)

/-- Reads the next character, if there is one. -/
def advance : Reader Unit := fun c => .ok ((), c.next)

/-- How much text is left, as a bound for loops that read. -/
def fuel : Reader Nat := fun c => .ok (c.rest.length + 1, c)

/-- Blanks, tabs and line ends. -/
def isBlank (c : Char) : Bool := c = ' ' || c = '\n' || c = '\t' || c = '\r'

/-- The cursor after the blanks that come next; the number bounds them. -/
def dropBlank : Nat → Cursor → Cursor
  | 0, c => c
  | n + 1, c =>
    match c.rest with
    | ch :: _ => if isBlank ch then dropBlank n c.next else c
    | [] => c

/-- The next character that is no blank; the blanks are read. -/
def peekToken? : Reader (Option Char) := fun c =>
  let c := dropBlank c.rest.length c
  .ok (c.rest.head?, c)

/-- The digits that come next. -/
def digits : Reader (List Char) := fun c =>
  let ds := c.rest.takeWhile Char.isDigit
  .ok (ds, ⟨c.rest.drop ds.length, c.line, c.column + ds.length⟩)

/-- The rest of a word of which the first letter was read. -/
def word : List Char → Reader Unit
  | [] => pure ()
  | expected :: rest => do
    match ← peek? with
    | none => fail .endInValue
    | some c => if c = expected then advance *> word rest else failNext .expectedIdent

end Reader

end Drawbridge.Json
