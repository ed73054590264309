import Drawbridge.Script.Access

/-!
# Operators

What unary and binary operators make of their operands.
-/

namespace Drawbridge.Script

/-- A number cut to 32 bits. -/
def int32 (x : Double) : Int32 := Int32.ofInt x.truncate

/-- A number cut to 32 bits, without sign. -/
def uint32 (x : Double) : UInt32 := UInt32.ofInt x.truncate

/-- What `typeof` calls a value. -/
def Machine.typeName (m : Machine) (v : Value) : String :=
  match v with
  | .undefined => "undefined"
  | .null => "object"
  | .bool _ => "boolean"
  | .int _ | .float _ => "number"
  | .bigInt _ => "bigint"
  | .text _ => "string"
  | .symbol _ => "symbol"
  | .object _ => if m.isCallable v then "function" else "object"

namespace Exec

/-! ## Arithmetic -/

/-- A value as a number or a big integer. -/
def toNumeric (v : Value) : Exec (Double ⊕ Int) := do
  match ← toPrimitive .number v with
  | .bigInt n => return .inr n
  | x => return .inl (← primitiveNumber x)

/-- An operator on doubles. -/
def onDoubles (op : BinaryOp) (x y : Double) : Value :=
  match op with
  | .add => .number (x.add y)
  | .sub => .number (x.sub y)
  | .mul => .number (x.mul y)
  | .div => .number (x.div y)
  | .rem => .number (x.rem y)
  | .exp => .number (x.pow y)
  | .shiftLeft => .int (int32 x <<< (int32 y &&& 31))
  | .shiftRight => .int (int32 x >>> (int32 y &&& 31))
  | .shiftRightZero => .ofInt (uint32 x >>> (uint32 y &&& 31)).toNat
  | .bitAnd => .int (int32 x &&& int32 y)
  | .bitOr => .int (int32 x ||| int32 y)
  | .bitXor => .int (int32 x ^^^ int32 y)
  | _ => .float .nan

/-- An operator on two integers, where no double is needed: what has no value, and a zero that takes
a sign, are left to doubles. -/
def onInts? (op : BinaryOp) (m n : Int32) : Option Value :=
  match op with
  | .add => some (.ofInt (m.toInt + n.toInt))
  | .sub => some (.ofInt (m.toInt - n.toInt))
  | .mul =>
    if (m = 0 || n = 0) && (m < 0 || n < 0) then none else some (.ofInt (m.toInt * n.toInt))
  | .rem =>
    let r := m.toInt.tmod n.toInt
    if n = 0 || (r = 0 && m < 0) then none else some (.ofInt r)
  | .shiftLeft => some (.int (m <<< (n &&& 31)))
  | .shiftRight => some (.int (m >>> (n &&& 31)))
  | .bitAnd => some (.int (m &&& n))
  | .bitOr => some (.int (m ||| n))
  | .bitXor => some (.int (m ^^^ n))
  | _ => none

/-- An operator on two integers. -/
def onInts (op : BinaryOp) (m n : Int32) : Value :=
  (onInts? op m n).getD (onDoubles op (.ofInt m.toInt) (.ofInt n.toInt))

/-- The bits that a big integer may have, one of them for the sign. -/
def bigIntBits : Nat := 1048576

/-- Refuses a big integer that is too large. -/
def tooLarge : Exec Value := raise .range "maximum BigInt size exceeded"

/-- A big integer, unless it is too large. -/
def bigIntValue (n : Int) : Exec Value :=
  let bits := (if 0 ≤ n then n else -n - 1).toNat.log2 + 1
  if bigIntBits ≤ bits then tooLarge else return .bigInt n

/-- An operator on the bits of two integers, as many as tell all of them apart by the sign: a
negative integer has the bits of its two's complement. -/
def onBits (op : Nat → Nat → Nat) (a b : Int) : Int :=
  let width := max a.natAbs.log2 b.natAbs.log2 + 2
  let modulus := Nat.pow 2 width
  let r := op (a % modulus).toNat (b % modulus).toNat
  if r.testBit (width - 1) then (r : Int) - modulus else r

/-- An integer times a power of two, rounded down. What would be far too large is not made. -/
def shifted (a b : Int) : Exec Value :=
  if a = 0 then return .bigInt 0
  else if 0 ≤ b then
    if bigIntBits ≤ a.natAbs.log2 + b.toNat then tooLarge
    else bigIntValue (a * Nat.pow 2 b.toNat)
  else if a.natAbs.log2 < b.natAbs then return .bigInt (if a < 0 then -1 else 0)
  else return .bigInt (a.fdiv (Nat.pow 2 b.natAbs))

/-- A power of an integer. What would be far too large is not made. -/
def power (a : Int) (n : Nat) : Exec Value :=
  if 2 ≤ a.natAbs then
    if bigIntBits ≤ a.natAbs.log2 * n then tooLarge else bigIntValue (Int.pow a n)
  else return .bigInt (if a = -1 then (if n % 2 = 0 then 1 else -1) else if n = 0 then 1 else a)

/-- An operator on big integers. -/
def onBigInts (op : BinaryOp) (a b : Int) : Exec Value :=
  match op with
  | .add => bigIntValue (a + b)
  | .sub => bigIntValue (a - b)
  | .mul => bigIntValue (a * b)
  | .div =>
    if b = 0 then raise .range "BigInt division by zero" else return .bigInt (a.tdiv b)
  | .rem =>
    if b = 0 then raise .range "BigInt division by zero" else return .bigInt (a.tmod b)
  | .exp =>
    if b < 0 then raise .range "BigInt negative exponent" else power a b.toNat
  | .shiftLeft => shifted a b
  | .shiftRight => shifted a (-b)
  | .bitAnd => return .bigInt (onBits Nat.land a b)
  | .bitOr => return .bigInt (onBits Nat.lor a b)
  | .bitXor => return .bigInt (onBits Nat.xor a b)
  | _ => throwType "bigint operands are forbidden for >>>"

/-- An operator on two operands that are both numbers or both big integers. -/
def arithmetic (op : BinaryOp) (a b : Value) : Exec Value := do
  match a, b with
  | .int m, .int n => return onInts op m n
  | _, _ =>
    let x ← toNumeric a
    let y ← toNumeric b
    match x, y with
    | .inl x, .inl y => return onDoubles op x y
    | .inr m, .inr n => onBigInts op m n
    | _, _ => throwType "cannot mix BigInt and other types"

/-- The texts of two primitives, one behind the other. -/
def concat (a b : Value) : Exec Value := do
  let s ← primitiveText a
  let t ← primitiveText b
  checkLength (s.length + t.length)
  textValue (s ++ t)

/-- `a + b`: text if one of them is text. -/
def plus (a b : Value) : Exec Value := do
  match a, b with
  | .int m, .int n => return onInts .add m n
  | .text _, .text _ => concat a b
  | _, _ =>
    let x ← toPrimitive .any a
    let y ← toPrimitive .any b
    match x, y with
    | .text _, _ | _, .text _ => concat x y
    | _, _ => arithmetic .add x y

/-! ## Comparison -/

/-- Whether two primitives are the same value: numbers by their value, objects by identity. -/
def same (a b : Value) : Bool :=
  match a, b with
  | .int m, .int n => m == n
  | _, _ =>
    match a.double?, b.double? with
    | some x, some y => x.equal y
    | none, none => decide (a = b)
    | _, _ => false

/-- How far equality with conversions has to go at most. -/
def looseFuel : Nat := 8

/-- Equality with conversions. -/
def loose : Nat → Value → Value → Exec Bool
  | 0, _, _ => return false
  | n + 1, a, b => do
    match a, b with
    | .undefined, .null | .null, .undefined => return true
    | .undefined, _ | .null, _ | _, .undefined | _, .null => return same a b
    | .object _, .object _ => return same a b
    | .object _, _ => loose n (← toPrimitive .any a) b
    | _, .object _ => loose n a (← toPrimitive .any b)
    | .bool p, .bool q => return p == q
    | .bool p, _ => loose n (.int (if p then 1 else 0)) b
    | _, .bool q => loose n a (.int (if q then 1 else 0))
    | .text s, .text t => return s == t
    | .text s, .int _ | .text s, .float _ => return same (.float (numberOfText s)) b
    | .int _, .text t | .float _, .text t => return same a (.float (numberOfText t))
    | .bigInt i, .text t | .text t, .bigInt i => return bigIntOfText? t == some i
    | .bigInt i, .int k | .int k, .bigInt i => return i == k.toInt
    | .bigInt i, .float x | .float x, .bigInt i => return x.toInt? == some i
    | _, _ => return same a b

/-- Whether an integer is less than a number, or greater; none if that is NaN. -/
def compareExact (n : Int) (x : Double) : Option Ordering :=
  if x.isNaN then none
  else if x.isInfinite then some (if x.less .zero then .gt else .lt)
  else if (x.toInt?).isSome || n ≠ x.truncate then some (compare n x.truncate)
  else some (if x.less .zero then .gt else .lt)

/-- Whether `a < b`; none if one of them is no number. -/
def lessThan (a b : Value) : Exec (Option Bool) := do
  match a, b with
  | .int m, .int n => return some (m < n)
  | .text s, .text t => return some (Utf16.lt s.units t.units)
  | .bigInt i, .bigInt k => return some (i < k)
  | .bigInt i, .text t => return (bigIntOfText? t).map fun k => decide (i < k)
  | .text s, .bigInt k => return (bigIntOfText? s).map fun i => decide (i < k)
  | .bigInt i, _ => return (compareExact i (← primitiveNumber b)).map (· == .lt)
  | _, .bigInt k => return (compareExact k (← primitiveNumber a)).map (· == .gt)
  | _, _ =>
    let x ← primitiveNumber a
    let y ← primitiveNumber b
    return if x.isNaN || y.isNaN then none else some (x.less y)

/-- The four order operators. -/
def compare (op : BinaryOp) (a b : Value) : Exec Value := do
  let x ← toPrimitive .number a
  let y ← toPrimitive .number b
  let holds ← match op with
    | .less => lessThan x y
    | .greater => lessThan y x
    | .lessEq => (·.map (!·)) <$> lessThan y x
    | _ => (·.map (!·)) <$> lessThan x y
  return .bool (holds.getD false)

/-! ## Objects -/

/-- `a in b` -/
def isIn (a b : Value) : Exec Value := do
  match b with
  | .object r =>
    let k ← toKey a
    return .bool (← read fun m => (m.lookup r k).isSome)
  | _ => throwType "invalid 'in' operand"

/-- `a instanceof b` -/
def instanceOf (a b : Value) : Exec Value := do
  if !(← read (·.isCallable b)) then throwType "invalid 'instanceof' right operand"
  else
    match a with
    | .object r =>
      match ← get b "prototype" with
      | .object proto =>
        return .bool (← read fun m =>
          match (m.object r).proto with
          | some parent => m.inherits proto (m.objects.size + 1) parent
          | none => false)
      | _ => throwType "operand 'prototype' property is not an object"
    | _ => return .bool false

/-! ## All operators -/

/-- An operator on two values. -/
def binary (op : BinaryOp) (a b : Value) : Exec Value := do
  match op with
  | .add => plus a b
  | .less | .greater | .lessEq | .greaterEq => compare op a b
  | .equal => return .bool (← loose looseFuel a b)
  | .notEqual => return .bool (!(← loose looseFuel a b))
  | .same => return .bool (same a b)
  | .notSame => return .bool (!same a b)
  | .isIn => isIn a b
  | .instanceOf => instanceOf a b
  | _ => arithmetic op a b

/-- The negative of a number; an integer stays one unless that is zero or out of range. -/
def negative (v : Value) : Exec Value := do
  match ← toPrimitive .number v with
  | .bigInt n => return .bigInt (-n)
  | .int n =>
    if n = 0 then return .float .negZero
    else return .ofInt (-n.toInt)
  | x => return .float (← primitiveNumber x).neg

/-- An operator on one value. -/
def unary (op : UnaryOp) (v : Value) : Exec Value := do
  match op with
  | .not => return .bool (!v.truthy)
  | .minus => negative v
  | .plus =>
    match v with
    | .int _ | .float _ => return v
    | _ => return .number (← toNumber v)
  | .bitNot =>
    match ← toNumeric v with
    | .inl x => return .int (~~~ (int32 x))
    | .inr n => return .bigInt (-n - 1)

end Exec

end Drawbridge.Script
