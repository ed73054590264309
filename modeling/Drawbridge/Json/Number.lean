import Drawbridge.Double
import Drawbridge.Json.Cursor

/-!
# JSON numbers

A number without fraction and exponent stays an integer while 64 bits hold it, and minus zero is no
integer. Any other number is a double: as many digits as 64 bits hold, scaled by one power of ten.
-/

namespace Drawbridge.Json

/-- A number as it is read: an integer where 64 bits hold it, a double otherwise. -/
inductive Number where
  | natural (n : UInt64)
  /-- a number below zero, not below `- 2 ^ 63` -/
  | negative (magnitude : Nat)
  | double (x : Double)
  deriving DecidableEq, Repr

namespace Number

/-- The value of a decimal digit. -/
def digitValue (c : Char) : Nat := c.toNat - '0'.toNat

/-- Takes digits in as long as the number fits 64 bits; gives the number and the digits left. -/
def absorb : Nat → List Char → Nat × List Char
  | n, [] => (n, [])
  | n, d :: ds =>
    if 10 * n + digitValue d < UInt64.size then absorb (10 * n + digitValue d) ds else (n, d :: ds)

/-- The power of ten with the exponent `n`, rounded; there is none above `10 ^ 308`. -/
def powerOfTen? (n : Nat) : Option Double :=
  if n ≤ 308 then some (Double.ofDecimal false 1 n) else none

/-- `x * 10 ^ exponent`, one rounding a step; none if that is too large. At most four steps down
take the largest 64-bit number to zero. -/
def scale : Nat → Double → Int → Option Double
  | steps, x, exponent =>
    match powerOfTen? exponent.natAbs with
    | some p =>
      if exponent ≥ 0 then
        let y := x.mul p
        if y.isInfinite then none else some y
      else some (x.div p)
    | none =>
      if x.isZero then some x
      else if exponent ≥ 0 then none
      else
        match steps with
        | 0 => some .zero
        | steps + 1 => scale steps (x.div (Double.ofDecimal false 1 308)) (exponent + 308)

/-- The number `x` with the sign that was read. -/
def signed (positive : Bool) (x : Double) : Double := if positive then x else x.neg

/-- The double of these digits and exponent. -/
def ofParts (positive : Bool) (significand : Nat) (exponent : Int) : Reader Number :=
  match scale 4 (.ofInt significand) exponent with
  | some x => pure (.double (signed positive x))
  | none => Reader.fail .numberOutOfRange

/-- The largest number that exponents are counted up to. -/
def exponentBound : Nat := 2147483647

/-- The value of the digits of an exponent, or the number of them with which it is out of bounds. -/
def exponentValue : Nat → Nat → List Char → Except Nat Nat
  | _, n, [] => .ok n
  | taken, n, d :: ds =>
    if 10 * n + digitValue d ≤ exponentBound then
      exponentValue (taken + 1) (10 * n + digitValue d) ds
    else .error (taken + 1)

/-- An exponent, from its letter on. -/
def readExponent (positive : Bool) (significand : Nat) (start : Int) : Reader Number := do
  Reader.advance
  let up ← do
    match ← Reader.peek? with
    | some '+' => Reader.advance; pure true
    | some '-' => Reader.advance; pure false
    | _ => pure true
  match ← Reader.peek? with
  | none => Reader.fail .endInValue
  | some c =>
    if !c.isDigit then Reader.failNext .invalidNumber
    else
      let before ← get
      let ds ← Reader.digits
      match exponentValue 0 0 ds with
      | .ok n => ofParts positive significand (if up then start + n else start - n)
      | .error taken =>
        if significand ≠ 0 && up then
          throw (before.faultAfter taken .numberOutOfRange)
        else pure (.double (signed positive .zero))

/-- A fraction, from its point on. -/
def readFraction (positive : Bool) (significand : Nat) (start : Int) : Reader Number := do
  Reader.advance
  let ds ← Reader.digits
  if ds.isEmpty then
    match ← Reader.peek? with
    | some _ => Reader.failNext .invalidNumber
    | none => Reader.failNext .endInValue
  else
    let (significand, left) := absorb significand ds
    let exponent := start - (ds.length - left.length : Nat)
    match ← Reader.peek? with
    | some 'e' | some 'E' => readExponent positive significand exponent
    | _ => ofParts positive significand exponent

/-- The integer of these digits, if it is one of 64 bits. -/
def ofInteger (positive : Bool) (significand : Nat) : Number :=
  if positive then .natural significand.toUInt64
  else if significand ≠ 0 && significand ≤ 9223372036854775808 then .negative significand
  else .double (Double.ofInt significand).neg

/-- A number, of which a minus sign was read. -/
def read (positive : Bool) : Reader Number := do
  match ← Reader.peek? with
  | none => Reader.fail .endInValue
  | some c =>
    if !c.isDigit then Reader.failNext .invalidNumber
    else
      let ds ← if c = '0' then Reader.advance *> pure ['0'] else Reader.digits
      let (significand, left) := absorb 0 ds
      match ← Reader.peek? with
      | some '.' => readFraction positive significand left.length
      | some 'e' | some 'E' => readExponent positive significand left.length
      | some d =>
        if c = '0' && d.isDigit then Reader.failNext .invalidNumber
        else if left.isEmpty then pure (ofInteger positive significand)
        else ofParts positive significand left.length
      | none =>
        if left.isEmpty then pure (ofInteger positive significand)
        else ofParts positive significand left.length

end Number

end Drawbridge.Json
