import Drawbridge.Decimal.Shortest

/-!
# Decimal spellings of doubles

A `Style` says which digits of a number are written and how they are laid out: which places of the
point are written positionally, and the spellings of whole numbers, zeros, infinities and NaN.
-/

namespace Drawbridge.Decimal

/-- With the digits read as `0.ddd`, `10 ^ p` scales them to the value; `p` from `leastPoint` to
`mostPoint` is written positionally, any other with an exponent, sign included. -/
structure Style where
  /-- the digits of a finite positive double -/
  digits : Double → Scaled
  leastPoint : Int
  mostPoint : Int
  /-- written after a whole number in positional notation -/
  wholeSuffix : String
  zero : String
  negZero : String
  nan : String
  infinity : String

/-- Numbers as scripts show them. -/
def Style.script : Style :=
  { digits := shortestRounded
    leastPoint := -5, mostPoint := 21, wholeSuffix := "", zero := "0", negZero := "0"
    nan := "NaN", infinity := "Infinity" }

/-- Numbers as messages about settings show them. -/
def Style.settings : Style :=
  { digits := shortest
    leastPoint := -4, mostPoint := 16, wholeSuffix := ".0", zero := "0.0", negZero := "-0.0"
    nan := "NaN", infinity := "inf" }

/-- So many zeros, none for a negative number of them. -/
def zeros (n : Int) : String := String.ofList (List.replicate n.toNat '0')

/-- `digits * 10 ^ exponent`, laid out. -/
def Style.layout (style : Style) (s : Scaled) : String :=
  let digits := toString s.digits
  let count : Int := digits.length
  let point := count + s.exponent
  if point < style.leastPoint ∨ style.mostPoint < point then
    let lead := String.ofList (digits.toList.take 1)
    let rest := String.ofList (digits.toList.drop 1)
    let e := point - 1
    lead ++ (if rest.isEmpty then "" else "." ++ rest)
      ++ "e" ++ (if e < 0 then "-" else "+") ++ toString e.natAbs
  else if count ≤ point then digits ++ zeros (point - count) ++ style.wholeSuffix
  else if 0 < point then
    String.ofList (digits.toList.take point.toNat) ++ "."
      ++ String.ofList (digits.toList.drop point.toNat)
  else "0." ++ zeros (-point) ++ digits

/-- The text of a double. -/
def Style.render (style : Style) (x : Double) : String :=
  if x.isNaN then style.nan
  else if x.isZero then (if x.isNegative then style.negZero else style.zero)
  else
    (if x.isNegative then "-" else "")
      ++ (if x.isInfinite then style.infinity else style.layout (style.digits x))

end Drawbridge.Decimal
