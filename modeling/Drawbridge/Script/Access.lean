import Drawbridge.Script.Heap
import Drawbridge.Script.Number
import Drawbridge.ScriptValue

/-!
# Properties and conversions

Reading and writing properties where accessors may run, and turning values into primitives, text
and numbers.
-/

namespace Drawbridge.Script

/-! ## Views of values -/

namespace Value

/-- A number, as an integer where it is one of 32 bits; not so negative zero. -/
def number (x : Double) : Value :=
  match ScriptValue.number x with
  | .int n => int n
  | _ => float x

/-- An integer as a number. -/
def ofInt (n : Int) : Value :=
  if ScriptValue.inRange32 n then int (Int32.ofInt n) else float (.ofInt n)

/-- The double that a number is. -/
def double? : Value → Option Double
  | int n => some (.ofInt n.toInt)
  | float x => some x
  | _ => none

/-- Whether a value is an object, functions included. -/
def isObject : Value → Bool
  | object _ => true
  | _ => false

/-- Whether a condition holds. -/
def truthy : Value → Bool
  | undefined | null => false
  | bool b => b
  | int n => n ≠ 0
  | float x => !(x.isNaN || x.isZero)
  | bigInt n => n ≠ 0
  | text s => !s.isEmpty
  | symbol _ | object _ => true

end Value

/-! ## Prototypes of primitives -/

/-- The object whose properties a primitive has. -/
def protoOf? : Value → Option Ref
  | .undefined | .null => none
  | .bool _ => some Intrinsic.boolProto.ref
  | .int _ | .float _ => some Intrinsic.numberProto.ref
  | .bigInt _ => some Intrinsic.bigIntProto.ref
  | .text _ => some Intrinsic.textProto.ref
  | .symbol _ => some Intrinsic.symbolProto.ref
  | .object r => some r

/-! ## Lists -/

namespace Object

/-- Sets the length that a list shows. -/
def showLength (o : Object) (n : Nat) (writable : Bool) : Object :=
  o.insert "length" ⟨.data (.ofInt n) writable, false, false⟩

/-- Adds or changes a property; an index beyond the length of a list moves it. -/
def define (o : Object) (k : Key) (p : Property) : Object :=
  let o := o.insert k p
  match k.index? with
  | some i =>
    match o.arrayLength? with
    | some (length, writable) => if i < length then o else o.showLength (i + 1) writable
    | none => o
  | none => o

/-- Cuts a list to a length; no element that cannot be configured goes, so that it may come to keep
a greater length. -/
def truncate (o : Object) (n : Nat) : Object × Nat :=
  let kept := o.properties.foldl (fun kept (k, p) =>
    match k.index? with
    | some i => if p.configurable then kept else max kept (i + 1)
    | none => kept) n
  let properties := o.properties.filter fun (k, _) =>
    match k.index? with
    | some i => i < kept
    | none => true
  ({ o with properties }, kept)

/-- Why a property cannot be added: the object is closed, or it is a list whose length must stay. -/
def closedTo? (o : Object) (k : Key) : Option String :=
  if !o.extensible then some "object is not extensible"
  else
    match k.index?, o.arrayLength? with
    | some i, some (length, false) => if length ≤ i then some "'length' is read-only" else none
    | _, _ => none

end Object

namespace Exec

/-! ## Reading -/

/-- What a property gives to the value it is asked of. -/
def contentValue (p : Property) (receiver : Value) : Exec Value :=
  match p.content with
  | .data v _ => Pure.pure v
  | .accessor .undefined _ => Pure.pure .undefined
  | .accessor getter _ => apply getter receiver []

/-- What messages call a value that has no properties. -/
def nameOfNothing : Value → String
  | .null => "null"
  | _ => "undefined"

/-- What a value that has no properties is asked for. -/
def throwNothing {α : Type} (verb : String) (v : Value) (name : Utf16) : Exec α :=
  throwType ("cannot " ++ Utf16.ofString verb ++ " property '" ++ name ++ "' of "
    ++ Utf16.ofString (nameOfNothing v))

/-- `v[k]` -/
def get (v : Value) (k : Key) : Exec Value := do
  match protoOf? v with
  | none => throwNothing "read" v (← read (·.shownKey k))
  | some r =>
    let own? := match v with
      | .text s => Object.textProperty? s k
      | _ => none
    match own? with
    | some p => contentValue p v
    | none =>
      match ← read (·.lookup r k) with
      | some (_, p) => contentValue p v
      | none => return .undefined

/-- The property of an object. -/
def getOf (r : Ref) (k : Key) : Exec Value := get (.object r) k

/-! ## Writing -/

/-- A write that is not carried out: an error in strict code, else nothing. -/
def rejected (strict : Bool) (message : Utf16) : Exec Unit :=
  if strict then throwType message else Pure.pure ()

/-- Refuses to write what cannot be written to. -/
def rejectReadOnly (strict : Bool) (k : Key) : Exec Unit := do
  rejected strict ("'" ++ (← read (·.shownKey k)) ++ "' is read-only")

/-- Adds or changes a property without running code. -/
def define (r : Ref) (k : Key) (p : Property) : Exec Unit :=
  modify fun m => m.modifyObject r (·.define k p)

/-- Adds a property, if the object takes it. -/
def addProperty (r : Ref) (k : Key) (p : Property) (strict : Bool) : Exec Unit := do
  match ← read fun m => (m.object r).closedTo? k with
  | some message => rejected strict (.ofString message)
  | none => define r k p

/-- Sets the length of a list. -/
def setLength (r : Ref) (n : Nat) (strict : Bool) : Exec Unit := do
  match ← read fun m => (m.object r).arrayLength? with
  | some (length, true) =>
    if length ≤ n then modify fun m => m.modifyObject r (·.showLength n true)
    else
      let kept ← update fun m =>
        let (o, kept) := (m.object r).truncate n
        (kept, m.setObject r (o.showLength kept true))
      if n < kept then rejected strict "not configurable"
  | _ => rejectReadOnly strict "length"

/-- Drops a property; false if it stays. -/
def erase (r : Ref) (k : Key) : Exec Bool := do
  let o ← read (·.object r)
  match o.own? k with
  | none => return true
  | some p =>
    if p.configurable then
      modify fun m => m.modifyObject r fun o => o.erase k
      return true
    else return false

/-! ## Conversions -/

/-- The symbol of the method that turns an object into a primitive. -/
def toPrimitiveSymbol : SymbolRef := ⟨0⟩

/-- The symbol under which an object has the word for its text form. -/
def tagSymbol : SymbolRef := ⟨1⟩

/-- The symbol of the method by which an object is walked through. -/
def iteratorSymbol : SymbolRef := ⟨2⟩

/-- Which primitive is wanted. -/
inductive Hint where
  | text
  | number
  | any
  deriving DecidableEq

/-- The word by which a conversion is asked for. -/
def Hint.name : Hint → String
  | text => "string"
  | number => "number"
  | any => "default"

/-- The result of a method of an object, if it has the method and that gives a primitive. -/
def primitiveBy (v : Value) (method : String) : Exec (Option Value) := do
  let f ← get v method
  if ← read (·.isCallable f) then
    let x ← apply f v []
    return if x.isObject then none else some x
  else return none

/-- A primitive for any value. -/
def toPrimitive (hint : Hint) (v : Value) : Exec Value := do
  if !v.isObject then return v
  else
    let special ← get v (.symbol toPrimitiveSymbol)
    match special with
    | .undefined | .null =>
      let (first, second) :=
        if hint = .text then ("toString", "valueOf") else ("valueOf", "toString")
      match ← primitiveBy v first with
      | some x => return x
      | none =>
        match ← primitiveBy v second with
        | some x => return x
        | none => throwType "toPrimitive"
    | f =>
      if ← read (·.isCallable f) then
        let x ← apply f v [.text (.ofString hint.name)]
        if x.isObject then throwType "toPrimitive" else return x
      else throwType "not a function"

/-- The text of a primitive. -/
def primitiveText : Value → Exec Utf16
  | .undefined => return "undefined"
  | .null => return "null"
  | .bool b => return .ofString (if b then "true" else "false")
  | .int n => return .ofString (toString n.toInt)
  | .float x => return textOfNumber x
  | .bigInt n => return .ofString (toString n)
  | .text s => return s
  | .symbol _ => throwType "cannot convert symbol to string"
  | .object _ => throwType "toPrimitive"

/-- The text of any value. -/
def toText (v : Value) : Exec Utf16 := do primitiveText (← toPrimitive .text v)

/-- The number of a primitive. -/
def primitiveNumber : Value → Exec Double
  | .undefined => return .nan
  | .null => return .zero
  | .bool b => return .ofInt (if b then 1 else 0)
  | .int n => return .ofInt n.toInt
  | .float x => return x
  | .bigInt _ => throwType "cannot convert bigint to number"
  | .text s => return numberOfText s
  | .symbol _ => throwType "cannot convert symbol to number"
  | .object _ => throwType "toPrimitive"

/-- The number of any value. -/
def toNumber (v : Value) : Exec Double := do primitiveNumber (← toPrimitive .number v)

/-- A value as a key. -/
def toKey (v : Value) : Exec Key := do
  match ← toPrimitive .text v with
  | .symbol s => return .symbol s
  | x => return .text (← primitiveText x)

/-- A value as an object; a primitive is wrapped. -/
def toObject (v : Value) : Exec Ref := do
  match v with
  | .object r => return r
  | .undefined | .null => throwType "cannot convert to object"
  | _ =>
    update fun m => m.alloc ⟨protoOf? v, true, #[], .wrapper v⟩

/-- A value as the length of a list; an object is asked twice for its number. -/
def toArrayLength (v : Value) : Exec Nat := do
  let invalid : Exec Nat := raise .range "invalid array length"
  let whole (x : Double) : Exec Nat :=
    match x.toInt? with
    | some n => if 0 ≤ n && n ≤ 4294967295 then return n.toNat else invalid
    | none => invalid
  if v.isObject then
    let x ← toNumber v
    let y ← toNumber v
    if (x.truncate : Int) % 4294967296 = y.truncate then whole y else invalid
  else whole (← toNumber v)

/-- A value as a number of elements, cut to whole numbers from 0 on. -/
def toCount (v : Value) : Exec Nat := do
  let x ← toNumber v
  return x.truncate.toNat

/-! ## Assignment -/

/-- `v[k] = x`. Accessors along the chain of prototypes run. -/
def put (v : Value) (k : Key) (x : Value) (strict : Bool) : Exec Unit := do
  match protoOf? v with
  | none => throwNothing "set" v (← read (·.shownKey k))
  | some r =>
    if ← read fun m => k = .ofString "length" && (m.object r).arrayLength?.isSome then
      let n ← toArrayLength x
      setLength r n strict
    else
      match ← read (·.lookup r k) with
      | some (_, ⟨.accessor _ .undefined, _, _⟩) => rejected strict "no setter for property"
      | some (_, ⟨.accessor _ setter, _, _⟩) => discard (apply setter v [x])
      | some (_, ⟨.data _ false, _, _⟩) => rejectReadOnly strict k
      | some (holder, ⟨.data _ true, enumerable, configurable⟩) =>
        if !v.isObject then rejected strict "not an object"
        else if holder = r then define r k ⟨.data x true, enumerable, configurable⟩
        else addProperty r k (.plain x) strict
      | none =>
        if v.isObject then addProperty r k (.plain x) strict else rejected strict "not an object"

/-! ## Elements -/

/-- The number of elements of a list. -/
def lengthOf (r : Ref) : Exec Nat := do toCount (← getOf r "length")

/-- The elements of a list, holes as undefined. -/
def elements (r : Ref) : Exec (List Value) := do
  let n ← lengthOf r
  (List.range n).mapM fun i => getOf r (.ofIndex i)

/-! ## Walks -/

/-- A further step of a walk that is built in: the value it gives, if any is left, and what is left
after it. -/
def stepWalk (w : Walk) : Exec (Option Value × Walk) := do
  match w with
  | .done => return (none, .done)
  | .characters [] => return (none, .done)
  | .characters us =>
    let c := Utf16.firstChar us
    return (some (.text (.ofUnits c)), .characters (us.drop c.length))
  | .elements r i =>
    if i < (← lengthOf r) then return (some (← getOf r (.ofIndex i)), .elements r (i + 1))
    else return (none, .done)

/-- An object on a walk, and the method that gives its next value. -/
structure Iterator where
  object : Value
  next : Value

/-- Where a walk through a value begins. -/
def openIterator (v : Value) : Exec Iterator := do
  let method ← get v (.symbol iteratorSymbol)
  if !(← read (·.isCallable method)) then throwType "value is not iterable"
  else
    let object ← apply method v []
    if !object.isObject then throwType "not an object"
    else return ⟨object, ← get object "next"⟩

/-- The built-in walk that an iterator is on, if its method is the built-in one too. -/
def Iterator.walk? (it : Iterator) (m : Machine) : Option (Ref × Walk) :=
  match it.object, it.next with
  | .object r, .object f =>
    match (m.object r).nature, (m.object f).nature with
    | .walk w, .builtIn .walkNext => some (r, w)
    | _, _ => none
  | _, _ => none

/-- The next value of a walk, if any is left. -/
def Iterator.step (it : Iterator) : Exec (Option Value) := do
  match ← read it.walk? with
  | some (r, w) =>
    let (v, w) ← stepWalk w
    modify fun m => m.modifyObject r fun o => { o with nature := .walk w }
    return v
  | none =>
    let result ← apply it.next it.object []
    if !result.isObject then throwType "iterator must return an object"
    else if (← get result "done").truthy then return none
    else return some (← get result "value")

/-- Lets an iterator know that the walk ends early. -/
def Iterator.close (it : Iterator) : Exec Unit := do
  match ← get it.object "return" with
  | .undefined | .null => return
  | f =>
    if ← read (·.isCallable f) then
      let result ← apply f it.object []
      if !result.isObject then throwType "not an object"
    else throwType "not a function"

/-- All values from here on; `n` bounds their number. -/
def Iterator.rest : Nat → Iterator → List Value → Exec (List Value)
  | 0, _, _ => stop .endless
  | n + 1, it, found => do
    match ← it.step with
    | some v => Iterator.rest n it (v :: found)
    | none => return found.reverse

end Exec

/-- A walk over the keys of an object and of those it inherits from. -/
structure KeyWalk where
  /-- the object it has come to -/
  holder : Ref
  /-- the keys that were there when it came -/
  keys : List Utf16
  /-- those still ahead -/
  rest : List Utf16
  /-- the keys of the objects before -/
  passed : List Utf16

namespace KeyWalk

/-- A walk that comes to an object. -/
def enter (m : Machine) (holder : Ref) (passed : List Utf16) : KeyWalk :=
  let o := m.object holder
  let keys := o.keys.filterMap fun
    | .text s => some s
    | .symbol _ => none
  ⟨holder, keys, o.listedKeys.filter fun k => !passed.contains k, passed⟩

/-- The next key that has not gone meanwhile. No chain is longer than there are objects. -/
def next? (m : Machine) : Nat → KeyWalk → Option (Utf16 × KeyWalk)
  | 0, _ => none
  | n + 1, w =>
    match w.rest.dropWhile fun k => ((m.object w.holder).own? (.text k)).isNone with
    | k :: rest => some (k, { w with rest })
    | [] =>
      match (m.object w.holder).proto with
      | some parent => next? m n (enter m parent (w.keys ++ w.passed))
      | none => none

end KeyWalk

/-! ## Values at the bridge -/

/-- The type of a value. -/
def Machine.typeOf (m : Machine) (v : Value) : ScriptType :=
  match v with
  | .undefined => .undefined
  | .null => .null
  | .bool _ => .bool
  | .int _ => .int
  | .float _ => .float
  | .bigInt _ => .bigInt
  | .text _ => .string
  | .symbol _ => .symbol
  | .object r =>
    match (m.object r).nature with
    | .array => .array
    | .error => .exception
    | .closure _ | .builtIn _ | .proxy _ => if m.isConstructor v then .constructor else .function
    | .promise => .promise
    | .plain | .wrapper _ | .date _ | .walk _ => .object

/-- A value as the bridge sees it. -/
def Machine.toBridge (m : Machine) (v : Value) : ScriptValue :=
  match v with
  | .undefined => .undefined
  | .null => .null
  | .bool b => .bool b
  | .int n => .int n
  | .float x => .float x
  | .text s => .text s
  | _ => .opaqueOf (m.typeOf v)

/-- A value from the bridge. Only primitives come from there. -/
def Value.ofBridge : ScriptValue → Value
  | .undefined | .opaqueOf _ => .undefined
  | .null => .null
  | .bool b => .bool b
  | .int n => .int n
  | .float x => .float x
  | .text s => .text s

end Drawbridge.Script
