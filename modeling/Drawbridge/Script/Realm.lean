import Drawbridge.Script.Calls
import Drawbridge.Settings

/-!
# The machine at its start

The global object with the functions that every script finds.
-/

namespace Drawbridge.Script

namespace Machine

/-- A built-in function as an object. -/
def builtIn (f : BuiltIn) : Object :=
  { proto := some Intrinsic.functionProto.ref
    extensible := true
    properties := #[
      (Key.ofString "length", ⟨.data (.int (Int32.ofNat f.arity)) false, false, true⟩),
      (Key.ofString "name", ⟨.data (.text (.ofString f.name)) false, false, true⟩)]
    nature := .builtIn f }

/-- Adds a built-in function to an object under its own name. -/
def addFunction (r : Ref) (m : Machine) (f : BuiltIn) : Machine :=
  let (g, m) := m.alloc (builtIn f)
  m.modifyObject r fun o => o.insert (.ofString f.name) (.hidden (.object g))

/-- Adds a constructor to the global object, with its prototype and its own functions. -/
def addConstructor (m : Machine) (f : BuiltIn) (proto : Intrinsic) (own methods : List BuiltIn) :
    Machine :=
  let (g, m) := m.alloc (builtIn f)
  let m := m.modifyObject g fun o => o.insert "prototype" (.fixed (.object proto.ref))
  let m := m.modifyObject proto.ref fun o => o.insert "constructor" (.hidden (.object g))
  let m := m.modifyObject Intrinsic.global.ref fun o =>
    o.insert (.ofString f.name) (.hidden (.object g))
  methods.foldl (addFunction proto.ref) (own.foldl (addFunction g) m)

/-- Adds the constructor of a class of errors. -/
def addErrorClass (m : Machine) (c : ErrorClass) : Machine :=
  let f := BuiltIn.errorNew c
  let m := m.addConstructor f c.proto [] (if c = .error then [.errorToText] else [])
  m.modifyObject c.proto.ref fun o =>
    (o.insert "name" (.hidden (.text (.ofString f.name)))).insert "message" (.hidden (.text ""))

/-- An intrinsic object without its functions. -/
def bare (i : Intrinsic) : Object :=
  let proto : Option Ref := match i with
    | .objectProto => none
    | .typeErrorProto | .rangeErrorProto | .referenceErrorProto | .syntaxErrorProto
    | .internalErrorProto => some Intrinsic.errorProto.ref
    | _ => some Intrinsic.objectProto.ref
  let nature : Nature := match i with
    | .functionProto => .builtIn .functionRoot
    | .arrayProto => .array
    | .textProto => .wrapper (.text "")
    | .numberProto => .wrapper (.int 0)
    | .boolProto => .wrapper (.bool false)
    | _ => .plain
  let properties : Array (Key × Property) := match i with
    | .arrayProto => #[("length", ⟨.data (.int 0) true, false, false⟩)]
    | .functionProto =>
      #[("length", ⟨.data (.int 0) false, false, true⟩),
        ("name", ⟨.data (.text "") false, false, true⟩)]
    | _ => #[]
  ⟨proto, true, properties, nature⟩

/-- The accessor by which objects show and change their prototype. -/
def addProtoAccessor (m : Machine) : Machine :=
  let (g, m) := m.alloc (builtIn .protoGet)
  let (s, m) := m.alloc (builtIn .protoSet)
  m.modifyObject Intrinsic.objectProto.ref fun o =>
    o.insert "__proto__" ⟨.accessor (.object g) (.object s), false, true⟩

/-- The word for the text form of an object. -/
def addTag (m : Machine) (word : String) (r : Ref) : Machine :=
  m.modifyObject r fun o =>
    o.insert (.symbol Exec.tagSymbol) ⟨.data (.text (.ofString word)) false, false, true⟩

/-- The names of the global object that are no functions. -/
def addGlobals (m : Machine) : Machine :=
  let (json, m) := m.alloc ⟨some Intrinsic.objectProto.ref, true, #[], .plain⟩
  let m := (addFunction json m .jsonStringify).addTag "JSON" json
  m.modifyObject Intrinsic.global.ref fun o =>
    let o := o.insert "JSON" (.hidden (.object json))
    let o := o.insert "globalThis" (.hidden (.object Intrinsic.global.ref))
    let o := o.insert "undefined" (.fixed .undefined)
    let o := o.insert "NaN" (.fixed (.float .nan))
    o.insert "Infinity" (.fixed (.float .infinity))

/-- The symbols that every machine has, in order, each by its name among the properties of
`Symbol`. -/
def knownSymbols : List String := ["toPrimitive", "toStringTag", "iterator"]

/-- Makes the known symbols properties of the function that makes symbols. -/
def addSymbols (m : Machine) : Machine :=
  match m.object Intrinsic.global.ref |>.find? "Symbol" with
  | some ⟨.data (.object g) _, _, _⟩ =>
    m.modifyObject g fun o =>
      knownSymbols.zipIdx.foldl
        (fun o (name, i) => o.insert (.ofString name) (.fixed (.symbol ⟨i⟩))) o
  | _ => m

/-- Adds a built-in function as the one by which an object is walked through. -/
def addIterator (r : Ref) (m : Machine) (f : BuiltIn) : Machine :=
  let (g, m) := m.alloc (builtIn f)
  m.modifyObject r fun o => o.insert (.symbol Exec.iteratorSymbol) (.hidden (.object g))

/-- Gives an object that has a property a second one of the same content. -/
def share (r : Ref) (k other : Key) (m : Machine) : Machine :=
  m.modifyObject r fun o =>
    match o.find? k with
    | some p => o.insert other p
    | none => o

/-- Adds what lists and texts are walked through by. -/
def addWalks (m : Machine) : Machine :=
  let m := share Intrinsic.arrayProto.ref "values" (.symbol Exec.iteratorSymbol) m
  let m := addIterator Intrinsic.textProto.ref m .textValues
  [Intrinsic.elementsProto, .charactersProto].foldl
    (fun m i => addIterator i.ref (addFunction i.ref m .walkNext) .walkSelf) m

/-- A machine on which nothing has run. -/
def fresh (textLimit : Option Nat) (depthLimit : Nat) (zone : Time.Zone) : Machine :=
  let m : Machine :=
    { working := 0
      objects := (Intrinsic.all.map bare).toArray
      scopes := #[⟨#[], none⟩]
      symbols := (knownSymbols.map fun name => some (.ofString ("Symbol." ++ name))).toArray
      runs := []
      textLimit, depthLimit, zone }
  let m := m.addConstructor .objectNew .objectProto
    [.objectKeys, .objectCreate, .objectDefine, .objectFreeze, .objectPrevent, .objectProto]
    [.objectToText, .objectValue, .objectHasOwn]
  let m := m.addProtoAccessor
  let m := m.addConstructor .functionNew .functionProto []
    [.functionCall, .functionApply, .functionToText]
  let m := [ErrorClass.error, .type, .range, .reference, .syntaxError, .internal].foldl
    addErrorClass m
  let m := m.addConstructor .arrayNew .arrayProto [.arrayIsArray]
    [.arrayMap, .arrayPush, .arrayJoin, .arrayToText, .arrayValues]
  let m := m.addConstructor .textNew .textProto []
    [.textRepeat, .textUpper, .textToText, .textValue]
  let m := m.addConstructor .numberNew .numberProto [] [.numberToText, .numberValue]
  let m := m.addConstructor .boolNew .boolProto [] [.boolToText, .boolValue]
  let m := m.addConstructor .symbolNew .symbolProto [] [.symbolToText, .symbolValue]
  let m := m.addConstructor .bigIntNew .bigIntProto [] [.bigIntToText, .bigIntValue]
  let m := m.addConstructor .dateNew .dateProto [] [.dateZone, .dateValue]
  let m := m.addConstructor .promiseNew .promiseProto [.promiseResolve, .promiseReject]
    [.promiseThen]
  let m := [(Intrinsic.global, "global"), (.symbolProto, "Symbol"), (.bigIntProto, "BigInt"),
    (.promiseProto, "Promise"), (.elementsProto, "Array Iterator"),
    (.charactersProto, "String Iterator")].foldl (fun m (i, word) => m.addTag word i.ref) m
  m.addSymbols.addWalks.addGlobals

/-! ## Limits -/

/-- The bytes of stack that scripts have unless settings say otherwise. -/
def defaultStack : Nat := 1048576

/-- The bytes of stack that a call is reckoned to take. -/
def callBytes : Nat := 256

/-- The bytes of memory up to which a limit leaves no room for an engine. They stand for what the
engine library allocates to make a context, which is not reckoned here: an engine may also find no
room under a limit that is somewhat higher. -/
def leastMemory : Nat := 1024

/-- A machine within the limits that settings give, if they leave room for one. No memory limit and
a limit of 0 are the same. A limit above `leastMemory` is not reckoned exactly: there is a machine,
and only the texts that are made on it count against the limit. -/
def ofSettings? (zone : Time.Zone) (s : Settings) : Option Machine :=
  let memory := (s.memoryLimit.map UInt64.toNat).getD 0
  if 0 < memory && memory ≤ leastMemory then none
  else
    let stack := match (s.maxStackSize.map UInt64.toNat).getD defaultStack with
      | 0 => defaultStack
      | n => min n defaultStack
    some (fresh (if memory = 0 then none else some memory) (stack / callBytes) zone)

end Machine

end Drawbridge.Script
