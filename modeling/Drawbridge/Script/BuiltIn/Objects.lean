import Drawbridge.Script.Evaluator

/-!
# Objects, functions, errors and lists

The built-in functions that work on objects.
-/

namespace Drawbridge.Script.Exec

/-- The argument at a place, undefined if it is not given. -/
def arg (args : List Value) (i : Nat) : Value := args.getD i .undefined

/-! ## Objects -/

/-- An object for a value, or a new one for none. -/
def objectNew (args : List Value) : Exec Value := do
  match arg args 0 with
  | .undefined | .null => newPlain
  | v => return .object (← toObject v)

/-- A list of the keys that are listed. -/
def objectKeys (args : List Value) : Exec Value := do
  let r ← toObject (arg args 0)
  let keys ← read fun m => (m.object r).listedKeys
  newArray (keys.map fun k => some (.text k))

/-- A property as an object describes it, as far as it does. -/
structure Description where
  enumerable : Option Bool
  configurable : Option Bool
  value : Option Value
  writable : Option Bool
  getter : Option Value
  setter : Option Value

namespace Description

/-- Whether a description has a part that only an accessor has. -/
def describesAccessor (d : Description) : Bool := d.getter.isSome || d.setter.isSome

/-- Whether a description has a part that only data has. -/
def describesData (d : Description) : Bool := d.value.isSome || d.writable.isSome

/-- The property that a description makes, of an earlier one perhaps. -/
def property (d : Description) (old : Option Property) : Property :=
  let (oldValue, oldWritable) := match old with
    | some ⟨.data v w, _, _⟩ => (v, w)
    | _ => (Value.undefined, false)
  let (oldGetter, oldSetter, wasAccessor) := match old with
    | some ⟨.accessor g s, _, _⟩ => (g, s, true)
    | _ => (Value.undefined, Value.undefined, false)
  let content : Content :=
    if d.describesAccessor || (wasAccessor && !d.describesData) then
      .accessor (d.getter.getD oldGetter) (d.setter.getD oldSetter)
    else .data (d.value.getD oldValue) (d.writable.getD oldWritable)
  ⟨content, d.enumerable.getD ((old.map (·.enumerable)).getD false),
    d.configurable.getD ((old.map (·.configurable)).getD false)⟩

/-- Whether a description leaves a property that cannot be configured as it is; a value that is
writable may change, and stop being so. -/
def fits (d : Description) (old : Property) : Bool :=
  d.configurable ≠ some true && (d.enumerable.getD old.enumerable) == old.enumerable &&
    match old.content with
    | .accessor g s =>
      !d.describesData && d.getter.getD g = g && d.setter.getD s = s
    | .data v writable =>
      !d.describesAccessor && (writable || (d.writable ≠ some true && d.value.getD v = v))

end Description

/-- What an object says of a property. -/
def describe (description : Value) : Exec Description := do
  match description with
  | .object r =>
    let field (name : String) : Exec (Option Value) := do
      if ← read fun m => (m.lookup r (.ofString name)).isSome then
        some <$> getOf r (.ofString name)
      else return none
    let accessor (name refusal : String) : Exec (Option Value) := do
      match ← field name with
      | some f =>
        if f = .undefined || (← read (·.isCallable f)) then return some f
        else throwType (.ofString refusal)
      | none => return none
    let enumerable ← field "enumerable"
    let configurable ← field "configurable"
    let value ← field "value"
    let writable ← field "writable"
    let getter ← accessor "get" "invalid getter"
    let setter ← accessor "set" "invalid setter"
    let d : Description := ⟨enumerable.map (·.truthy), configurable.map (·.truthy), value,
      writable.map (·.truthy), getter, setter⟩
    if d.describesAccessor && d.describesData then
      throwType "cannot have setter/getter and value or writable"
    else return d
  | _ => throwType "not an object"

/-- Sets the length of a list as described; that it is not to change any more holds even if it could
not be set. -/
def defineLength (r : Ref) (d : Description) : Exec Unit :=
  after
    (match d.value with
      | some v => do setLength r (← toArrayLength v) true
      | none => pure ())
    (if d.writable = some false then
      modify fun m => m.modifyObject r fun o =>
        match o.arrayLength? with
        | some (n, _) => o.showLength n false
        | none => o
    else pure ())

/-- Defines a property as an object describes it. -/
def defineDescribed (r : Ref) (k : Key) (description : Value) : Exec Unit := do
  let d ← describe description
  let o ← read (·.object r)
  match o.own? k with
  | none =>
    match k.index?, o.arrayLength? with
    | some i, some (length, false) =>
      if i < length then addProperty r k (d.property none) true else rejectReadOnly true "length"
    | _, _ => addProperty r k (d.property none) true
  | some old =>
    if !old.configurable && !d.fits old then throwType "property is not configurable"
    else
      match if k = .ofString "length" then o.arrayLength? else none with
      | some (_, writable) => if writable then defineLength r d
      | none =>
        let isVirtual : Bool := match o.wrappedText? with
          | some s => (Object.textProperty? s k).isSome
          | none => false
        if !isVirtual then define r k (d.property (some old))

/-- Defines a property of an object as another object describes it. -/
def objectDefine (args : List Value) : Exec Value := do
  match arg args 0 with
  | .object r =>
    let k ← toKey (arg args 1)
    defineDescribed r k (arg args 2)
    return .object r
  | _ => throwType "not an object"

/-- A new object with a prototype, and with properties as another object describes them. -/
def objectCreate (args : List Value) : Exec Value := do
  let proto ← match arg args 0 with
    | .object r => pure (some r)
    | .null => pure none
    | _ => throwType "not a prototype"
  let o ← newObject ⟨proto, true, #[], .plain⟩
  match o, arg args 1 with
  | _, .undefined => return o
  | .object r, v =>
    let d ← toObject v
    (← read fun m => (m.object d).copiedKeys).forM fun k => do
      defineDescribed r k (← getOf d k)
    return o
  | _, _ => return o

/-- Fixes an object: nothing can be added, configured or written. Anything else is left as it is. -/
def objectFreeze (args : List Value) : Exec Value := do
  match arg args 0 with
  | .object r =>
    modify fun m => m.modifyObject r fun o =>
      { o with
        extensible := false
        properties := o.properties.map fun (k, p) =>
          let content := match p.content with
            | .data v _ => .data v false
            | c => c
          (k, ⟨content, p.enumerable, false⟩) }
    return .object r
  | v => return v

/-- Keeps an object from getting more properties. Anything else is left as it is. -/
def objectPrevent (args : List Value) : Exec Value := do
  match arg args 0 with
  | .object r =>
    modify fun m => m.modifyObject r fun o => { o with extensible := false }
    return .object r
  | v => return v

/-- A prototype as a value, null for none. -/
def protoValue : Option Ref → Value
  | some r => .object r
  | none => .null

/-- The prototype of an object. -/
def objectProto (args : List Value) : Exec Value := do
  let r ← toObject (arg args 0)
  return protoValue (← read fun m => (m.object r).proto)

/-- A value as `[object Name]`, by its nature or by the tag that it has. -/
def objectToText (this : Value) : Exec Value := do
  let name ← match this with
    | .undefined => pure "Undefined"
    | .null => pure "Null"
    | .symbol _ => pure "Symbol"
    | .bigInt _ => pure "BigInt"
    | _ => do
      let r ← toObject this
      let o ← read (·.object r)
      pure (match o.nature with
        | .array => "Array"
        | .error => "Error"
        | .closure _ | .builtIn _ | .proxy _ => "Function"
        | .wrapper (.text _) => "String"
        | .wrapper (.bool _) => "Boolean"
        | .wrapper (.int _) | .wrapper (.float _) => "Number"
        | .wrapper (.symbol _) => "Symbol"
        | .wrapper (.bigInt _) => "BigInt"
        | .date _ => "Date"
        | _ => "Object")
  let name ← match this with
    | .undefined | .null => pure (Utf16.ofString name)
    | _ => do
      match ← get this (.symbol tagSymbol) with
      | .text word => pure word
      | _ => pure (Utf16.ofString name)
  return .text ("[object " ++ name ++ "]")

/-- An object stands for itself, a primitive for the object that wraps it. -/
def objectValue (this : Value) : Exec Value := do return .object (← toObject this)

/-- Whether an object has a property of its own. -/
def objectHasOwn (this : Value) (args : List Value) : Exec Value := do
  let k ← toKey (arg args 0)
  let r ← toObject this
  return .bool (← read fun m => ((m.object r).own? k).isSome)

/-- Reads `__proto__`. -/
def protoGet (this : Value) : Exec Value := do
  let r ← toObject this
  return protoValue (← read fun m => (m.object r).proto)

/-- Sets `__proto__` to an object or to null, unless that makes a circle. Anything else is passed
over. -/
def protoSet (this : Value) (args : List Value) : Exec Value := do
  let set (r : Ref) (proto : Option Ref) : Exec Value := do
    let m ← machine
    let o := m.object r
    if o.proto = proto then return .undefined
    else if !o.extensible then throwType "object is not extensible"
    else
      let circular := match proto with
        | some p => m.inherits r (m.objects.size + 1) p
        | none => false
      if circular then throwType "circular prototype chain"
      else
        modify fun m => m.setObject r { o with proto }
        return .undefined
  match this, arg args 0 with
  | .undefined, _ | .null, _ => throwType "cannot convert to object"
  | .object r, .object p => set r (some p)
  | .object r, .null => set r none
  | _, _ => return .undefined

/-! ## Functions -/

/-- Calls a function on its first argument with the others. -/
def functionCall (this : Value) (args : List Value) : Exec Value :=
  callValue this (arg args 0) (args.drop 1)

/-- Calls a function on its first argument with the elements of a list. -/
def functionApply (this : Value) (args : List Value) : Exec Value := do
  if !(← read (·.isCallable this)) then throwType "not a function"
  else
    match arg args 1 with
    | .undefined | .null => apply this (arg args 0) []
    | .object r => do apply this (arg args 0) (← elements r)
    | _ => throwType "not a object"

/-- A function as its source text, or what stands for it. -/
def functionToText (this : Value) : Exec Value := do
  if !(← read (·.isCallable this)) then throwType "not a function"
  else
    match this with
    | .object r =>
      match (← read (·.object r)).nature with
      | .closure c => return .text c.code.text
      | _ =>
        let name ← match ← getOf r "name" with
          | .undefined => pure (Utf16.ofString "")
          | v => toText v
        return .text ("function " ++ name ++ "() \x7b\n    [native code]\n\x7d")
    | _ => throwType "not a function"

/-! ## Errors -/

/-- A new error; its backtrace begins where it is made, not with its constructor. -/
def errorNew (c : ErrorClass) (args : List Value) : Exec Value := do
  let message ← match arg args 0 with
    | .undefined => pure none
    | v => some <$> toText v
  let cause : Option Value ← match arg args 1 with
    | .object o =>
      if ← read fun m => (m.lookup o "cause").isSome then some <$> getOf o "cause" else pure none
    | _ => pure none
  let r ← update (·.newError 1 c (message.getD ""))
  modify fun m => m.modifyObject r fun o =>
    let o := if message.isSome then o else o.erase "message"
    match cause, o.find? "stack" with
    | some v, some stack => ((o.erase "stack").insert "cause" (.hidden v)).insert "stack" stack
    | _, _ => o
  return .object r

/-- The name of an error and its message, with a colon between them if there are both. -/
def errorToText (this : Value) : Exec Value := do
  match this with
  | .object r =>
    let part (key : String) (missing : String) : Exec Utf16 := do
      match ← getOf r (.ofString key) with
      | .undefined => return .ofString missing
      | v => toText v
    let name ← part "name" "Error"
    let message ← part "message" ""
    if name.isEmpty then return .text message
    else if message.isEmpty then return .text name
    else textValue (name ++ ": " ++ message)
  | _ => throwType "not an object"

/-! ## Lists -/

/-- A list of values, or one of a length. -/
def arrayNew (args : List Value) : Exec Value := do
  match args with
  | [v] => if v.double?.isSome then newList (.ofInt (← toArrayLength v)) [] else newArray [some v]
  | _ => newArray (args.map some)

/-- Whether the argument is a list. -/
def arrayIsArray (args : List Value) : Exec Value := do
  match arg args 0 with
  | .object r =>
    match (← read (·.object r)).nature with
    | .array => return .bool true
    | _ => return .bool false
  | _ => return .bool false

/-- A list with each element changed by a function; holes stay holes. -/
def arrayMap (this : Value) (args : List Value) : Exec Value := do
  let r ← toObject this
  let n ← lengthOf r
  let f := arg args 0
  if !(← read (·.isCallable f)) then throwType "not a function"
  else
    let items ← (List.range n).mapM fun i => do
      let k := Key.ofIndex i
      if ← read fun m => (m.lookup r k).isSome then
        let v ← getOf r k
        some <$> apply f (arg args 1) [v, .ofInt i, .object r]
      else return none
    newArray items

/-- Adds the arguments behind the elements of a list, and gives the new length. -/
def arrayPush (this : Value) (args : List Value) : Exec Value := do
  let r ← toObject this
  let n ← lengthOf r
  args.zipIdx.forM fun (v, i) => put (.object r) (.ofIndex (n + i)) v true
  let length : Value := .ofInt (n + args.length)
  put (.object r) "length" length true
  return length

/-- The texts of the elements with a separator between them. -/
def joined (r : Ref) (separator : Utf16) : Exec Value := do
  let n ← lengthOf r
  let parts ← (List.range n).mapM fun i => do
    match ← getOf r (.ofIndex i) with
    | .undefined | .null => return (Utf16.ofString "")
    | v => toText v
  let units := parts.foldl (fun n part => n + part.length) 0 + separator.length * (parts.length - 1)
  checkLength units
  textValue (.join separator parts)

/-- The texts of the elements with a separator between them, a comma if none is given. -/
def arrayJoin (this : Value) (args : List Value) : Exec Value := do
  let r ← toObject this
  let separator ← match arg args 0 with
    | .undefined => pure (Utf16.ofString ",")
    | v => toText v
  joined r separator

/-- A list as text, by its own `join` if that is a function. -/
def arrayToText (this : Value) : Exec Value := do
  let r ← toObject this
  let f ← getOf r "join"
  if ← read (·.isCallable f) then apply f this [] else objectToText this

/-! ## Walks -/

/-- A walk as an object. -/
def newWalk (proto : Intrinsic) (w : Walk) : Exec Value :=
  newObject ⟨some proto.ref, true, #[], .walk w⟩

/-- A walk over the elements of a list. -/
def arrayValues (this : Value) : Exec Value := do
  newWalk .elementsProto (.elements (← toObject this) 0)

/-- A step of a walk as an object. -/
def walkNext (this : Value) : Exec Value := do
  let refused : Exec Value := throwType "not an iterator"
  match this with
  | .object r =>
    match (← read (·.object r)).nature with
    | .walk w =>
      let (v, w) ← stepWalk w
      modify fun m => m.modifyObject r fun o => { o with nature := .walk w }
      newObject ⟨some Intrinsic.objectProto.ref, true,
        #[(Key.ofString "value", .plain (v.getD .undefined)),
          (Key.ofString "done", .plain (.bool v.isNone))], .plain⟩
    | _ => refused
  | _ => refused

end Drawbridge.Script.Exec
