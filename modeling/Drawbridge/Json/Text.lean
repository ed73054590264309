import Drawbridge.Double
import Drawbridge.Json.Cursor
import Drawbridge.Text.Utf16

/-!
# JSON strings

Quoted text with escapes. Above `U+FFFF` an escape is a surrogate pair, and a surrogate alone is no
text. `write` is the compact form: an escape where JSON asks for one, and nowhere else.
-/

namespace Drawbridge.Json

/-! ## Reading -/

namespace Reader

/-- Four hexadecimal digits. -/
def hex4 : Reader UInt16 := do
  let c ← get
  if c.remaining < 4 then failAfter 4 .endInString
  else
    match (c.rest.take 4).mapM Double.hexValue? with
    | none => failAfter 4 .invalidEscape
    | some ds =>
      set { c with rest := c.rest.drop 4, column := c.column + 4 : Cursor }
      return (ds.foldl (fun n d => 16 * n + d) 0).toUInt16

/-- The character `expected`, which continues an escape. -/
def escapePart (expected : Char) : Reader Unit := do
  match ← peek? with
  | none => fail .endInString
  | some c => if c = expected then advance else failNext .endOfHexEscape

/-- A character by its code, of which the backslash and the letter were read. -/
def unicodeEscape : Reader Char := do
  let high ← hex4
  if Utf16.isLow high then fail .loneSurrogate
  else if Utf16.isHigh high then
    escapePart '\\'
    escapePart 'u'
    let low ← hex4
    if Utf16.isLow low then return Char.ofNat (Utf16.pair high low)
    else fail .loneSurrogate
  else return Char.ofNat high.toNat

/-- The character that a letter after a backslash stands for. -/
def escaped? (c : Char) : Option Char :=
  if c = '"' || c = '\\' || c = '/' then some c
  else if c = 'b' then some '\x08'
  else if c = 'f' then some '\x0c'
  else if c = 'n' then some '\n'
  else if c = 'r' then some '\r'
  else if c = 't' then some '\t'
  else none

/-- An escape, of which the backslash was read. -/
def escape : Reader Char := do
  match ← peek? with
  | none => fail .endInString
  | some c =>
    if c = 'u' then advance *> unicodeEscape
    else
      match escaped? c with
      | some e => advance *> pure e
      | none => failNext .invalidEscape

/-- Whether a character may stand in a string as an escape only. -/
def isControl (c : Char) : Bool := c.toNat < 0x20

/-- The rest of a string, its opening quote read; `n` bounds the characters. -/
def textBody : Nat → Reader (List Char)
  | 0 => fail .endInString
  | n + 1 => do
    match ← peek? with
    | none => fail .endInString
    | some c =>
      if c = '"' then advance *> pure []
      else if c = '\\' then do
        advance
        let e ← escape
        (e :: ·) <$> textBody n
      else if isControl c then failNext .controlCharacter
      else do
        advance
        (c :: ·) <$> textBody n

/-- A string, its opening quote read. -/
def text : Reader String := do String.ofList <$> textBody (← fuel)

/-! ## Passing over -/

/-- An escape as `escape` reads it, except that surrogates may stand alone. -/
def skipEscape : Reader Unit := do
  match ← peek? with
  | none => fail .endInString
  | some c =>
    if c = 'u' then advance *> discard hex4
    else if (escaped? c).isSome then advance
    else failNext .invalidEscape

/-- Passes over the rest of a string, its opening quote read; the number bounds the characters. -/
def skipTextBody : Nat → Reader Unit
  | 0 => fail .endInString
  | n + 1 => do
    match ← peek? with
    | none => fail .endInString
    | some c =>
      if c = '"' then advance
      else if c = '\\' then advance *> skipEscape *> skipTextBody n
      else if isControl c then fail .controlCharacter
      else advance *> skipTextBody n

/-- Passes over a string, its opening quote read. -/
def skipText : Reader Unit := do skipTextBody (← fuel)

end Reader

/-! ## Writing -/

/-- A character as it stands in a string. -/
def writeChar (c : Char) : List Char :=
  if c = '"' || c = '\\' then ['\\', c]
  else if c = '\x08' then ['\\', 'b']
  else if c = '\x0c' then ['\\', 'f']
  else if c = '\n' then ['\\', 'n']
  else if c = '\r' then ['\\', 'r']
  else if c = '\t' then ['\\', 't']
  else if c.toNat < 0x20 then ['\\', 'u'] ++ Double.hexDigits 4 c.toNat
  else [c]

/-- A string in quotes. -/
def write (s : String) : String :=
  String.ofList (['"'] ++ s.toList.flatMap writeChar ++ ['"'])

end Drawbridge.Json
