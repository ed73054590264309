import Drawbridge.Double
import Drawbridge.Script.Syntax
import Drawbridge.Text.Identifier

/-!
# Tokens

`scan` cuts a source into lexemes: a token, where it stands, and whether a line end came before it.
The list ends with `finish`, or at the first text that is no token with `invalid`.

The column of a lexeme is less exact than its line. It counts the bytes from the last line end to
the last place that was an end of blanks, lines or comments, or the start of a name of ASCII
letters; on the first line it counts from 0, but is never below 1.
-/

namespace Drawbridge.Script

/-- What a piece of a source is: a word, a literal, a sign, the end of the source, or none of
these. -/
inductive Token where
  /-- an identifier or a keyword; one written with escapes is no keyword -/
  | word (w : String) (escaped : Bool)
  | literal (v : Literal)
  | sign (s : String)
  | finish
  | invalid
  deriving DecidableEq, Repr

/-- A token with its place in the source. -/
structure Lexeme where
  token : Token
  mark : Mark
  /-- the line on which it ends -/
  endLine : Nat
  /-- whether a line end came before -/
  fresh : Bool
  /-- the line of a digit sequence that strict code refuses: an octal number or escape -/
  octal : Option Nat
  /-- offsets in characters -/
  start : Nat
  stop : Nat
  deriving Repr

instance : Inhabited Lexeme := ⟨⟨.finish, ⟨1, 1⟩, 1, false, none, 0, 0⟩⟩

/-- How far a source has been cut. -/
structure Position where
  rest : List Char
  /-- the characters and the bytes before -/
  offset : Nat
  bytes : Nat
  line : Nat
  /-- the bytes before the place that columns are counted from -/
  lineStart : Nat
  /-- the bytes before the place that columns are counted to -/
  anchor : Nat

namespace Position

/-- After `n` characters of one line. -/
def skip (p : Position) (n : Nat) : Position :=
  { p with
    rest := p.rest.drop n
    offset := p.offset + n
    bytes := (p.rest.take n).foldl (fun bytes c => bytes + c.utf8Size) p.bytes }

/-- Columns are counted up to here. -/
def anchored (p : Position) : Position := { p with anchor := p.bytes }

/-- After `n` characters that end a line; columns are counted from the last byte of them. -/
def newLine (p : Position) (n : Nat) : Position :=
  let q := p.skip n
  { q with line := p.line + 1, lineStart := q.bytes - 1, anchor := q.bytes }

/-- The column of a lexeme that begins here. -/
def column (p : Position) : Nat := max 1 (p.anchor - p.lineStart)

/-- The start of a source. -/
def start (source : List Char) : Position := ⟨source, 0, 0, 1, 0, 0⟩

end Position

/-! ## Characters -/

/-- Whether a character ends a line. -/
def isLineEnd (c : Char) : Bool := c = '\n' || c = '\r' || c = '\u2028' || c = '\u2029'

/-- Blanks within a line. -/
def isBlank (c : Char) : Bool :=
  c = ' ' || c = '\t' || c = '\x0b' || c = '\x0c' || c = '\u00a0' || c = '\ufeff' || c = '\u1680'
    || ('\u2000' ≤ c && c ≤ '\u200a') || c = '\u202f' || c = '\u205f' || c = '\u3000'

/-! ## Blanks and comments -/

/-- The end of a block comment, and whether a line ends within; the line of the end of a source that
ends first. Only a line feed counts as a further line. -/
def blockComment : Nat → Bool → Position → Except Nat (Position × Bool)
  | 0, _, p => .error p.line
  | n + 1, fresh, p =>
    match p.rest with
    | [] => .error p.line
    | '*' :: '/' :: _ => .ok ((p.skip 2).anchored, fresh)
    | c :: _ =>
      if c = '\n' then blockComment n true (p.newLine 1)
      else blockComment n (fresh || isLineEnd c) (p.skip 1)

/-- The end of a line. -/
def lineComment (p : Position) : Position :=
  (p.skip (p.rest.takeWhile fun c => !isLineEnd c).length).anchored

/-- Passes over blanks, line ends and comments; tells whether there was a line end. `fresh` is
whether there was one before. -/
def skipBlanks : Nat → Bool → Position → Except Nat (Position × Bool)
  | 0, fresh, p => .ok (p, fresh)
  | n + 1, fresh, p =>
    match p.rest with
    | '\r' :: '\n' :: _ => skipBlanks n true (p.newLine 2)
    | '/' :: '/' :: _ => skipBlanks n fresh (lineComment p)
    | '<' :: '!' :: '-' :: '-' :: _ => skipBlanks n fresh (lineComment p)
    | '-' :: '-' :: '>' :: _ =>
      if fresh then skipBlanks n fresh (lineComment p) else .ok (p, fresh)
    | '/' :: '*' :: rest => do
      let (q, lineEnd) ← blockComment (rest.length + 1) fresh (p.skip 2)
      skipBlanks n lineEnd q
    | c :: _ =>
      if isLineEnd c then skipBlanks n true (p.newLine 1)
      else if isBlank c then skipBlanks n fresh (p.skip 1).anchored
      else .ok (p, fresh)
    | [] => .ok (p, fresh)

/-- A first line that names a program to run the source is passed over. -/
def skipShebang (p : Position) : Position :=
  match p.rest with
  | '#' :: '!' :: _ => p.skip (p.rest.takeWhile fun c => !isLineEnd c).length
  | _ => p

/-! ## Numbers -/

/-- The value of a digit in a base up to 16. -/
def digitIn? (base : Nat) (c : Char) : Option Nat :=
  match Double.hexValue? c with
  | some d => if d < base then some d else none
  | none => none

/-- Whether a character is a digit in a base. -/
def isDigitIn (base : Nat) (c : Char) : Bool := (digitIn? base c).isSome

/-- The digits at the head of a text; between two of them a low line may stand. -/
def digitRun (base : Nat) : List Char → List Char
  | [] => []
  | [c] => if isDigitIn base c then [c] else []
  | c :: d :: rest =>
    if isDigitIn base c then c :: digitRun base (d :: rest)
    else if c = '_' && isDigitIn base d then c :: digitRun base (d :: rest)
    else []

/-- The number that digits write; what is no digit does not count. -/
def valueIn (base : Nat) (cs : List Char) : Nat :=
  cs.foldl (fun n c => match digitIn? base c with
    | some d => base * n + d
    | none => n) 0

/-- The literal for a number that is not negative: an integer if it is one of 32 bits. -/
def numberLiteral (x : Double) : Literal :=
  match x.toInt? with
  | some n => if n ≤ 2147483647 then .int (Int32.ofInt n) else .float x
  | none => .float x

/-- A number as it is written: its value, its length, and whether strict code refuses it. -/
structure Numeral where
  value : Literal
  length : Nat
  octal : Bool

/-- A number in base 16, 8 or 2, its mark of the base read. Such a number has no fraction. -/
def basedNumeral? (base : Nat) (cs : List Char) : Option Numeral :=
  match cs with
  | c :: _ =>
    if !isDigitIn base c then none
    else
      let run := digitRun base cs
      let n := valueIn base run
      match cs.drop run.length with
      | '.' :: _ => none
      | 'n' :: _ => some ⟨.bigInt n, run.length + 3, false⟩
      | _ => some ⟨numberLiteral (Double.ofRatio false n 1), run.length + 2, false⟩
  | [] => none

/-- The exponent at the head of a text, and its length; none is written as no exponent. -/
def exponentPart (cs : List Char) : Int × Nat :=
  match cs with
  | e :: tail =>
    if e = 'e' || e = 'E' then
      let (minus, sign, digits) := match tail with
        | '-' :: ds => (true, 1, ds)
        | '+' :: ds => (false, 1, ds)
        | _ => (false, 0, tail)
      match digits with
      | d :: _ =>
        if d.isDigit then
          let run := digitRun 10 digits
          let n : Int := valueIn 10 run
          (if minus then -n else n, 1 + sign + run.length)
        else (0, 0)
      | [] => (0, 0)
    else (0, 0)
  | [] => (0, 0)

/-- A decimal number whose digits before the point are known. -/
def decimalNumeral? (whole : List Char) (isOctal : Bool) (cs : List Char) : Option Numeral :=
  let rest := cs.drop whole.length
  match rest with
  | 'n' :: _ =>
    if isOctal || whole.isEmpty then none
    else some ⟨.bigInt (valueIn 10 whole), whole.length + 1, false⟩
  | _ =>
    let fraction? : Option (List Char × Nat) := match rest with
      | '.' :: '_' :: _ => none
      | '.' :: tail => some (digitRun 10 tail, 1)
      | _ => some ([], 0)
    match fraction? with
    | none => none
    | some (fraction, point) =>
      if whole.isEmpty && fraction.isEmpty then none
      else
        let length := whole.length + point + fraction.length
        let (exponent, more) := exponentPart (cs.drop length)
        let scale : Int := (fraction.filter (· ≠ '_')).length
        let x := Double.ofDecimal false (valueIn 10 (whole ++ fraction)) (exponent - scale)
        some ⟨numberLiteral x, length + more, isOctal⟩

/-- A number that begins with a zero and a further digit: octal, unless a digit is 8 or 9. -/
def zeroNumeral? (cs : List Char) : Option Numeral :=
  let low := cs.takeWhile (isDigitIn 8)
  match cs.drop low.length with
  | c :: _ =>
    if c = '8' || c = '9' then decimalNumeral? (cs.takeWhile Char.isDigit) true cs
    else if c = '.' || c = 'n' then none
    else some ⟨numberLiteral (Double.ofRatio false (valueIn 8 low) 1), low.length, true⟩
  | [] => some ⟨numberLiteral (Double.ofRatio false (valueIn 8 low) 1), low.length, true⟩

/-- The number at the head of a text, in any base. -/
def numeral? (cs : List Char) : Option Numeral :=
  match cs with
  | '0' :: c :: rest =>
    if c = 'x' || c = 'X' then basedNumeral? 16 rest
    else if c = 'o' || c = 'O' then basedNumeral? 8 rest
    else if c = 'b' || c = 'B' then basedNumeral? 2 rest
    else if c.isDigit then zeroNumeral? cs
    else if c = '_' then decimalNumeral? ['0'] false cs
    else decimalNumeral? (digitRun 10 cs) false cs
  | _ => decimalNumeral? (digitRun 10 cs) false cs

/-! ## Escapes -/

/-- The code point after `\u`, and the length of it. -/
def codePoint? (cs : List Char) : Option (Nat × Nat) :=
  match cs with
  | '\x7b' :: rest =>
    let ds := rest.takeWhile (isDigitIn 16)
    match rest.drop ds.length with
    | '\x7d' :: _ =>
      if ds.isEmpty || 0x10FFFF < valueIn 16 ds then none
      else some (valueIn 16 ds, ds.length + 2)
    | _ => none
  | _ =>
    let ds := cs.take 4
    if ds.length = 4 && ds.all (isDigitIn 16) then some (valueIn 16 ds, 4) else none

/-- The units of a code point, which may be that of a surrogate. -/
def codeUnits (n : Nat) : List UInt16 :=
  if n < 0x10000 then [n.toUInt16] else Utf16.ofChar (Char.ofNat n)

/-- What an escape in a string stands for. -/
structure Escape where
  units : List UInt16
  /-- the characters after the backslash -/
  length : Nat
  /-- whether it is the end of a line -/
  isLine : Bool
  octal : Bool

/-- An escape after its backslash. -/
def escape? (cs : List Char) : Option Escape :=
  let one (n : UInt16) : Option Escape := some ⟨[n], 1, false, false⟩
  match cs with
  | [] => none
  | 'n' :: _ => one 10
  | 't' :: _ => one 9
  | 'r' :: _ => one 13
  | 'b' :: _ => one 8
  | 'f' :: _ => one 12
  | 'v' :: _ => one 11
  | 'x' :: rest =>
    let ds := rest.take 2
    if ds.length = 2 && ds.all (isDigitIn 16) then
      some ⟨codeUnits (valueIn 16 ds), 3, false, false⟩
    else none
  | 'u' :: rest => (codePoint? rest).map fun (n, length) => ⟨codeUnits n, length + 1, false, false⟩
  | '\r' :: '\n' :: _ => some ⟨[], 2, true, false⟩
  | c :: rest =>
    if c = '\n' || c = '\r' then some ⟨[], 1, true, false⟩
    else if isLineEnd c then some ⟨[], 1, false, false⟩
    else if isDigitIn 8 c then
      let run := (cs.take 3).takeWhile (isDigitIn 8)
      let run := if valueIn 8 run < 256 then run else run.take 2
      let isZero : Bool := c = '0' && !(match rest with
        | d :: _ => d.isDigit
        | [] => false)
      some ⟨[(valueIn 8 run).toUInt16], run.length, false, !isZero⟩
    else some ⟨Utf16.ofChar c, 1, false, c.isDigit⟩

/-- The units of a string up to its closing quote, with the line of its first octal escape and the
place after it; or the line on which it is at fault. `units` are those before, the last one
first. -/
def stringBody (quote : Char) :
    Nat → List UInt16 → Option Nat → Position → Except Nat (List UInt16 × Option Nat × Position)
  | 0, _, _, p => .error p.line
  | n + 1, units, octal, p =>
    match p.rest with
    | [] => .error p.line
    | '\\' :: rest =>
      match escape? rest with
      | none => .error p.line
      | some e =>
        let q := p.skip 1
        let q := if e.isLine then q.newLine e.length else q.skip e.length
        let octal := if octal.isNone && e.octal then some p.line else octal
        stringBody quote n (e.units.reverse ++ units) octal q
    | c :: _ =>
      if c = quote then .ok (units.reverse, octal, p.skip 1)
      else if c = '\n' || c = '\r' then .error p.line
      else stringBody quote n ((Utf16.ofChar c).reverse ++ units) octal (p.skip 1)

/-! ## Words -/

/-- The character of a word at the head of a text, the length of it, and whether it is an escape. -/
def wordChar? (fits : Char → Bool) (cs : List Char) : Option (Char × Nat × Bool) :=
  match cs with
  | '\\' :: 'u' :: rest =>
    match codePoint? rest with
    | some (n, length) =>
      if fits (Char.ofNat n) then some (Char.ofNat n, length + 2, true) else none
    | none => none
  | c :: _ => if fits c then some (c, 1, false) else none
  | [] => none

/-- The rest of a word; `word` is its head, the last character first. -/
def wordRest : Nat → List Char → Bool → Position → Token × Position
  | 0, word, escaped, p => (.word (String.ofList word.reverse) escaped, p)
  | n + 1, word, escaped, p =>
    match wordChar? Text.Identifier.isPart p.rest with
    | some (c, length, isEscape) => wordRest n (c :: word) (escaped || isEscape) (p.skip length)
    | none => (.word (String.ofList word.reverse) escaped, p)

/-! ## Signs -/

/-- The signs, the longer ones before those they begin with. -/
def signs : List String :=
  [">>>=", "...", "===", "!==", "**=", "<<=", ">>=", ">>>", "&&=", "||=", "??=",
    "<=", ">=", "==", "!=", "++", "--", "<<", ">>", "&&", "||", "??", "+=", "-=", "*=", "/=", "%=",
    "&=", "|=", "^=", "=>", "**",
    "\x7b", "\x7d", "(", ")", "[", "]", ";", ",", "<", ">", "+", "-", "*", "/", "%", "&", "|", "^",
    "!", "~", "?", ":", "=", "."]

/-- The longest sign at the head of a text. -/
def sign? (cs : List Char) : Option String :=
  signs.find? fun s => s.toList.isPrefixOf cs

/-! ## The scanner -/

/-- Whether a word could go on; it may not follow a number at once. -/
def goesOn (rest : List Char) : Bool :=
  match rest with
  | c :: _ => Text.Identifier.isPart c
  | [] => false

/-- The token at a place that is no blank, the line of what strict code refuses in it, and the place
after it; or the line on which it is at fault. -/
def token? (p : Position) : Except Nat (Token × Option Nat × Position) :=
  match p.rest with
  | [] => .ok (.finish, none, p)
  | c :: rest =>
    let pointed := match rest with
      | d :: _ => c = '.' && d.isDigit
      | [] => false
    match wordChar? Text.Identifier.isStart p.rest with
    | some (d, length, isEscape) =>
      let p := if c.toNat < 0x80 && !isEscape then p.anchored else p
      let (t, q) := wordRest (rest.length + 1) [d] isEscape (p.skip length)
      .ok (t, none, q)
    | none =>
      if c.isDigit || pointed then
        match numeral? p.rest with
        | some x =>
          let q := p.skip x.length
          if goesOn q.rest then .error p.line
          else .ok (.literal x.value, if x.octal then some p.line else none, q)
        | none => .error p.line
      else if c = '"' || c = '\'' then do
        let (us, octal, q) ← stringBody c (rest.length + 1) [] none (p.skip 1)
        .ok (.literal (.text (.ofUnits us)), octal, q)
      else
        match sign? p.rest with
        | some s => .ok (.sign s, none, p.skip s.length)
        | none => .error p.line

/-- The lexemes from a place on; `n` bounds their number. `fresh` is whether nothing came before on
the line. -/
def scanFrom : Nat → Bool → Position → List Lexeme
  | 0, _, _ => []
  | n + 1, fresh, p =>
    let broken (line offset : Nat) : List Lexeme :=
      [⟨.invalid, ⟨line, 1⟩, line, false, none, offset, offset⟩]
    match skipBlanks (p.rest.length + 1) fresh p with
    | .error line => broken line p.offset
    | .ok (p, fresh) =>
      match token? p with
      | .error line => broken line p.offset
      | .ok (.finish, _) => [⟨.finish, ⟨p.line, p.column⟩, p.line, fresh, none, p.offset, p.offset⟩]
      | .ok (t, octal, q) =>
        ⟨t, ⟨p.line, q.column⟩, q.line, fresh, octal, p.offset, q.offset⟩ :: scanFrom n false q

/-- The lexemes of a source. -/
def scan (source : List Char) : List Lexeme :=
  scanFrom (source.length + 1) true (skipShebang (.start source))

end Drawbridge.Script
