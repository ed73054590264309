import Drawbridge.Text.Unprintable

/-!
# Quoted text

Text in double quotes on one line: a backslash and a letter for the common controls, the quote and
the backslash, `\u` and the hexadecimal code in braces for what could not be seen. Single quotes
stand as they are.
-/

namespace Drawbridge

namespace Text.Quoted

/-- The lower-case hexadecimal digits of `n`, without leading zeros. -/
def hex (n : Nat) : List Char := Nat.toDigits 16 n

/-- A character as it stands in a quoted text. -/
def escape (c : Char) : List Char :=
  if c = '\x00' then ['\\', '0']
  else if c = '\t' then ['\\', 't']
  else if c = '\n' then ['\\', 'n']
  else if c = '\r' then ['\\', 'r']
  else if c = '"' then ['\\', '"']
  else if c = '\\' then ['\\', '\\']
  else if Unprintable.isExtender c || Unprintable.isUnprintable c then
    ['\\', 'u', '\x7b'] ++ hex c.toNat ++ ['\x7d']
  else [c]

end Text.Quoted

/-- The text in quotes, with escapes for what could not be seen. -/
def quoted (s : String) : String :=
  String.ofList (['"'] ++ s.toList.flatMap Text.Quoted.escape ++ ['"'])

/-- The texts in quotes, in brackets, with commas between them. -/
def quotedList (ss : List String) : String :=
  "[" ++ ", ".intercalate (ss.map quoted) ++ "]"

end Drawbridge
