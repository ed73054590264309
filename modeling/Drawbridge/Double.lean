/-!
# Double precision numbers as bit patterns

A `Double` is the 64 bits of an IEEE 754 binary64 number. Reading a value (`toInt?`, `significand`,
`power`) and rounding an exact ratio (`ofRatio`) are integer arithmetic; only the arithmetic of
running scripts goes through machine floats.
-/

namespace Drawbridge

/-- A double precision number, by its 64 bits. -/
structure Double where
  bits : UInt64
  deriving DecidableEq, Hashable, Repr

instance : Inhabited Double := ⟨⟨0⟩⟩

namespace Double

/-! ## Parts -/

/-- Whether the sign bit is set. -/
def isNegative (x : Double) : Bool := 0x8000000000000000 ≤ x.bits

/-- The 11 bits of the exponent: 0 for zeros and subnormal numbers, 2047 for infinities and NaN. -/
def exponentField (x : Double) : Nat := x.bits.toNat / Nat.pow 2 52 % Nat.pow 2 11

/-- The 52 low bits. -/
def fraction (x : Double) : Nat := x.bits.toNat % Nat.pow 2 52

/-- Whether it is neither an infinity nor NaN. -/
def isFinite (x : Double) : Bool := x.exponentField ≠ 2047

/-- Whether it is no number, whatever the payload. -/
def isNaN (x : Double) : Bool := x.exponentField = 2047 && x.fraction ≠ 0

/-- Whether it is one of the two infinities. -/
def isInfinite (x : Double) : Bool := x.exponentField = 2047 && x.fraction = 0

/-- Whether it is one of the two zeros. -/
def isZero (x : Double) : Bool := x.exponentField = 0 && x.fraction = 0

/-- The integer `m` of the magnitude `m * 2 ^ power` of a finite number. -/
def significand (x : Double) : Nat :=
  if x.exponentField = 0 then x.fraction else Nat.pow 2 52 + x.fraction

/-- The exponent of the magnitude `significand * 2 ^ power` of a finite number. -/
def power (x : Double) : Int := (max x.exponentField 1 : Nat) - 1075

/-! ## Special values -/

/-- The zero whose sign bit is clear. -/
def zero : Double := ⟨0⟩

/-- The zero whose sign bit is set. -/
def negZero : Double := ⟨0x8000000000000000⟩

/-- The infinity above all numbers. -/
def infinity : Double := ⟨0x7ff0000000000000⟩

/-- The infinity below all numbers. -/
def negInfinity : Double := ⟨0xfff0000000000000⟩

/-- The one NaN that answers show. -/
def nan : Double := ⟨0x7ff8000000000000⟩

/-- Every NaN as `nan`, every other number as it is. -/
def canonical (x : Double) : Double := if x.isNaN then nan else x

/-- The sign bit turned over. -/
def neg (x : Double) : Double := ⟨x.bits ^^^ 0x8000000000000000⟩

/-! ## Integers -/

/-- The magnitude as a natural number, if it is one. -/
def wholeMagnitude? (x : Double) : Option Nat :=
  match x.power with
  | .ofNat p => some (x.significand * Nat.pow 2 p)
  | .negSucc p =>
    if x.significand % Nat.pow 2 (p + 1) = 0 then some (x.significand / Nat.pow 2 (p + 1)) else none

/-- The integer a number denotes; both zeros denote 0. Fractions, infinities and NaN denote none. -/
def toInt? (x : Double) : Option Int :=
  if x.isFinite then
    x.wholeMagnitude?.map fun m => if x.isNegative then -(m : Int) else (m : Int)
  else none

/-- Toward zero; infinities and NaN as 0. -/
def truncate (x : Double) : Int :=
  if x.isFinite then
    let m : Nat := match x.power with
      | .ofNat p => x.significand * Nat.pow 2 p
      | .negSucc p => x.significand / Nat.pow 2 (p + 1)
    if x.isNegative then -(m : Int) else (m : Int)
  else 0

/-- Whether nothing stands behind the point; so it does not in infinities and NaN. -/
def isWhole (x : Double) : Bool := x.isFinite && x.wholeMagnitude?.isSome

/-- The cast to 32 bits: toward zero, past an end of the range to this end, NaN to 0. -/
def toInt32 (x : Double) : Int32 :=
  if x.isInfinite then (if x.isNegative then .minValue else .maxValue)
  else .ofInt (max (-2147483648) (min 2147483647 x.truncate))

/-! ## Order -/

/-- The number in units of `2 ^ e`, for `e` up to its power. An infinity is next to the largest
finite number. -/
def inUnits (x : Double) (e : Int) : Int :=
  let m : Nat := x.significand * Nat.pow 2 (x.power - e).toNat
  if x.isNegative then -(m : Int) else (m : Int)

/-- The comparison `≤`, in which the zeros are equal and NaN has no place. -/
def atMost (x y : Double) : Bool :=
  let e := min x.power y.power
  !x.isNaN && !y.isNaN && x.inUnits e ≤ y.inUnits e

/-! ## Rounding -/

/-- The sign bit. -/
def signBit (negative : Bool) : Nat := if negative then Nat.pow 2 63 else 0

/-- `num / den` to the nearest integer, a tie to the even one. -/
def roundHalfEven (num den : Nat) : Nat :=
  let q := num / den
  let r := num % den
  if 2 * r < den then q
  else if 2 * r = den then q + q % 2
  else q + 1

/-- The exponent `e` of the grid `2 ^ e` on which doubles near `num / den` lie. -/
def gridPower (num den : Nat) : Int :=
  let guess : Int := (num.log2 : Int) - den.log2 - 52
  -- one too high exactly when `num < den * 2 ^ (guess + 52)`
  let reached : Bool :=
    if guess + 52 ≥ 0 then den * Nat.pow 2 (guess + 52).toNat ≤ num
    else den ≤ num * Nat.pow 2 (-(guess + 52)).toNat
  max (if reached then guess else guess - 1) (-1074)

/-- The double nearest to `± num / den`, a tie to the even significand; too large a magnitude gives
an infinity, and `den = 0` counts as too large. -/
def ofRatio (negative : Bool) (num den : Nat) : Double :=
  if num = 0 then ⟨(signBit negative).toUInt64⟩
  else if den = 0 then ⟨(signBit negative + 2047 * Nat.pow 2 52).toUInt64⟩
  else
    let e := gridPower num den
    let q := if e ≥ 0 then roundHalfEven num (den * Nat.pow 2 e.toNat)
      else roundHalfEven (num * Nat.pow 2 (-e).toNat) den
    -- a carry into the next binade adds one to the exponent field by itself
    let magnitude := q + (e + 1074).toNat * Nat.pow 2 52
    if magnitude ≥ 2047 * Nat.pow 2 52 then ⟨(signBit negative + 2047 * Nat.pow 2 52).toUInt64⟩
    else ⟨(signBit negative + magnitude).toUInt64⟩

/-- The double nearest to `± digits * 10 ^ exponent`. -/
def ofDecimal (negative : Bool) (digits : Nat) (exponent : Int) : Double :=
  if digits = 0 then ⟨(signBit negative).toUInt64⟩
  else if exponent > 400 then (if negative then negInfinity else infinity)
  else if exponent ≥ 0 then ofRatio negative (digits * Nat.pow 10 exponent.toNat) 1
  else if exponent < -400 - (digits.log2 : Int) then ⟨(signBit negative).toUInt64⟩
  else ofRatio negative digits (Nat.pow 10 (-exponent).toNat)

/-- The double nearest to an integer; exact up to `2 ^ 53`. -/
def ofInt (n : Int) : Double :=
  let m := n.natAbs
  if m = 0 then zero
  else if m.log2 ≤ 52 then
    ⟨(signBit (n < 0) + (m.log2 + 1022) * Nat.pow 2 52 + m * Nat.pow 2 (52 - m.log2)).toUInt64⟩
  else ofRatio (n < 0) m 1

/-! ## Machine floats -/

/-- The machine float of these bits. -/
def toFloat (x : Double) : Float := Float.ofBits x.bits

/-- The bits of a machine float. -/
def ofFloat (f : Float) : Double := ⟨f.toBits⟩

/-- The sum, rounded as the machine does. -/
def add (x y : Double) : Double := ofFloat (x.toFloat + y.toFloat)

/-- The difference, rounded as the machine does. -/
def sub (x y : Double) : Double := ofFloat (x.toFloat - y.toFloat)

/-- The product, rounded as the machine does. -/
def mul (x y : Double) : Double := ofFloat (x.toFloat * y.toFloat)

/-- The quotient, rounded as the machine does. -/
def div (x y : Double) : Double := ofFloat (x.toFloat / y.toFloat)

/-- The power as scripts have it: NaN where 1 or -1 is raised to an infinity or to NaN. -/
def pow (x y : Double) : Double :=
  if !y.isFinite && (x = ofInt 1 || x = ofInt (-1)) then nan else ofFloat (x.toFloat.pow y.toFloat)

/-- The comparison of numbers: the zeros are equal, and NaN is not equal to itself. -/
def equal (x y : Double) : Bool := x.toFloat == y.toFloat

/-- The comparison `<` of numbers, which is false where one of them is NaN. -/
def less (x y : Double) : Bool := decide (x.toFloat < y.toFloat)

/-- What division toward zero leaves, with the sign of `x`. -/
def rem (x y : Double) : Double :=
  if x.isNaN || y.isNaN || x.isInfinite || y.isZero then nan
  else if y.isInfinite || x.isZero then x
  else
    let e := min x.power y.power
    let r := x.significand * Nat.pow 2 (x.power - e).toNat
      % (y.significand * Nat.pow 2 (y.power - e).toNat)
    if e ≥ 0 then ofRatio x.isNegative (r * Nat.pow 2 e.toNat) 1
    else ofRatio x.isNegative r (Nat.pow 2 (-e).toNat)

/-- Half of a number. -/
def half (x : Double) : Double := x.div (.ofInt 2)

/-! ## Hexadecimal digits -/

/-- `width` lower-case hexadecimal digits of `n`, the high ones first. -/
def hexDigits : Nat → Nat → List Char
  | 0, _ => []
  | width + 1, n => hexDigits width (n / 16) ++ [Nat.digitChar (n % 16)]

/-- The value of a hexadecimal digit. -/
def hexValue? (c : Char) : Option Nat :=
  if '0' ≤ c ∧ c ≤ '9' then some (c.toNat - '0'.toNat)
  else if 'a' ≤ c ∧ c ≤ 'f' then some (c.toNat - 'a'.toNat + 10)
  else if 'A' ≤ c ∧ c ≤ 'F' then some (c.toNat - 'A'.toNat + 10)
  else none

end Double

end Drawbridge
