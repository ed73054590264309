import Drawbridge.Decimal.Style
import Drawbridge.Script.Token

/-!
# Numbers and their text

A text is read as a number whole or not at all; a number is written with the fewest digits that
read back.
-/

namespace Drawbridge.Script

/-- The number that trimmed text writes in base 16, 8 or 2. -/
def basedText? (base : Nat) (cs : List Char) : Option Double :=
  if cs.isEmpty || cs.any fun c => (digitIn? base c).isNone then none
  else some (Double.ofRatio false (valueIn base cs) 1)

/-- The number that trimmed text without sign writes in base 10. -/
def decimalText? (negative : Bool) (cs : List Char) : Option Double :=
  let fits (c : Char) : Bool :=
    c.isDigit || c = '.' || c = 'e' || c = 'E' || c = '+' || c = '-'
  if cs.isEmpty || !cs.all fits then none
  else
    let whole := cs.takeWhile Char.isDigit
    let rest := cs.drop whole.length
    let (fraction, rest) := match rest with
      | '.' :: tail => (tail.takeWhile Char.isDigit, tail.dropWhile Char.isDigit)
      | _ => ([], rest)
    let exponent? : Option Int := match rest with
      | [] => some 0
      | e :: tail =>
        if e = 'e' || e = 'E' then
          let (minus, digits) := match tail with
            | '-' :: ds => (true, ds)
            | '+' :: ds => (false, ds)
            | _ => (false, tail)
          if digits.isEmpty || digits.any fun c => !c.isDigit then none
          else some (if minus then -(valueIn 10 digits : Int) else valueIn 10 digits)
        else none
    if whole.isEmpty && fraction.isEmpty then none
    else exponent?.map fun e =>
      Double.ofDecimal negative (valueIn 10 (whole ++ fraction)) (e - fraction.length)

/-- Text without the blanks and line ends around it. -/
def trimmed (cs : List Char) : List Char :=
  let blank (c : Char) : Bool := isBlank c || isLineEnd c
  ((cs.dropWhile blank).reverse.dropWhile blank).reverse

/-- The number that a text writes, or NaN. -/
def numberOfText (s : Utf16) : Double :=
  let cs := trimmed s.lossy.toList
  let signed (negative : Bool) (rest : List Char) : Option Double :=
    if rest = "Infinity".toList then
      some (if negative then Double.negInfinity else Double.infinity)
    else decimalText? negative rest
  let x := match cs with
    | [] => some Double.zero
    | '0' :: 'x' :: rest | '0' :: 'X' :: rest => basedText? 16 rest
    | '0' :: 'o' :: rest | '0' :: 'O' :: rest => basedText? 8 rest
    | '0' :: 'b' :: rest | '0' :: 'B' :: rest => basedText? 2 rest
    | '-' :: rest => signed true rest
    | '+' :: rest => signed false rest
    | _ => signed false cs
  x.getD Double.nan

/-- The big integer that a text writes; blank text is 0. Only decimal digits may have a sign. -/
def bigIntOfText? (s : Utf16) : Option Int :=
  let digits (base : Nat) (cs : List Char) : Option Nat :=
    if cs.isEmpty || cs.any fun c => (digitIn? base c).isNone then none
    else some (valueIn base cs)
  match trimmed s.lossy.toList with
  | [] => some 0
  | '0' :: 'x' :: rest | '0' :: 'X' :: rest => (digits 16 rest).map fun n => (n : Int)
  | '0' :: 'o' :: rest | '0' :: 'O' :: rest => (digits 8 rest).map fun n => (n : Int)
  | '0' :: 'b' :: rest | '0' :: 'B' :: rest => (digits 2 rest).map fun n => (n : Int)
  | '-' :: rest => (digits 10 rest).map fun n => -(n : Int)
  | '+' :: rest => (digits 10 rest).map fun n => (n : Int)
  | cs => (digits 10 cs).map fun n => (n : Int)

/-- The text of a number. -/
def textOfNumber (x : Double) : Utf16 := .ofString (Decimal.Style.script.render x)

/-- The digits of a natural number in a base up to 36. -/
def digitsInBase (base : Nat) : Nat → Nat → List Char
  | 0, _ => []
  | n + 1, v =>
    let digit := Char.ofNat (if v % base < 10 then 48 + v % base else 87 + v % base)
    if v < base then [digit] else digitsInBase base n (v / base) ++ [digit]

/-- An integer in a base of 2 to 36. -/
def intInBase (base : Nat) (v : Int) : String :=
  (if v < 0 then "-" else "")
    ++ String.ofList (digitsInBase base (v.natAbs.log2 + 1) v.natAbs)

end Drawbridge.Script
