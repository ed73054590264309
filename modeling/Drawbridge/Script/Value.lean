import Drawbridge.Activity
import Drawbridge.Backtrace
import Drawbridge.Script.Syntax
import Drawbridge.Time.Zone

/-!
# Values and the machine

A machine holds the objects, scopes and symbols that scripts make, and the functions that are
running. An `Exec` works on the machine and comes to a value, throws one, or calls the host.
-/

namespace Drawbridge.Script

/-! ## References into the machine -/

/-- Names an object of a machine. -/
structure Ref where
  index : Nat
  deriving DecidableEq, Repr, Inhabited

/-- Names a scope of a machine. -/
structure ScopeRef where
  index : Nat
  deriving DecidableEq, Repr, Inhabited

/-- Names a symbol of a machine. -/
structure SymbolRef where
  index : Nat
  deriving DecidableEq, Repr, Inhabited

/-! ## Values -/

/-- A value of a script: a primitive, or a reference to an object. -/
inductive Value where
  | undefined
  | null
  | bool (b : Bool)
  | int (n : Int32)
  | float (x : Double)
  | bigInt (n : Int)
  | text (s : Utf16)
  | symbol (s : SymbolRef)
  | object (r : Ref)
  deriving DecidableEq, Repr, Inhabited

/-- What a property is found under. -/
inductive Key where
  | text (s : Utf16)
  | symbol (s : SymbolRef)
  deriving DecidableEq, Repr, Inhabited

/-- The key that a text is. -/
def Key.ofString (s : String) : Key := .text (.ofString s)

instance : Coe String Key := ⟨Key.ofString⟩

/-- What a property holds; an accessor that is missing is undefined. -/
inductive Content where
  | data (value : Value) (writable : Bool)
  | accessor (getter setter : Value)
  deriving DecidableEq, Repr, Inhabited

/-- A property: what it holds, whether it is listed, and whether it may be made another one. -/
structure Property where
  content : Content
  enumerable : Bool
  configurable : Bool
  deriving DecidableEq, Repr, Inhabited

namespace Property

/-- A property as assignment makes it. -/
def plain (v : Value) : Property := ⟨.data v true, true, true⟩

/-- A property that is not listed. -/
def hidden (v : Value) : Property := ⟨.data v true, false, true⟩

/-- A property that never changes. -/
def fixed (v : Value) : Property := ⟨.data v false, false, false⟩

end Property

/-! ## Built-in functions -/

/-- The classes of errors that are made here. -/
inductive ErrorClass where
  | error
  | type
  | range
  | reference
  | syntaxError
  | internal
  deriving DecidableEq, Repr

/-- The functions that every machine has. -/
inductive BuiltIn where
  | functionRoot | functionNew
  | objectNew | objectKeys | objectCreate | objectDefine | objectFreeze | objectPrevent
  | objectProto | objectToText | objectValue | objectHasOwn | protoGet | protoSet
  | functionCall | functionApply | functionToText
  | errorNew (c : ErrorClass) | errorToText
  | arrayNew | arrayIsArray | arrayMap | arrayPush | arrayJoin | arrayToText | arrayValues
  | textNew | textRepeat | textUpper | textToText | textValue | textValues
  | walkNext | walkSelf
  | numberNew | numberToText | numberValue
  | boolNew | boolToText | boolValue
  | symbolNew | symbolToText | symbolValue
  | bigIntNew | bigIntToText | bigIntValue
  | dateNew | dateZone | dateValue
  | promiseNew | promiseResolve | promiseReject | promiseThen | promiseSettle
  | jsonStringify
  deriving DecidableEq, Repr

/-! ## Objects -/

/-- A function of a script, with what it keeps of the place where it was made. -/
structure Closure where
  code : Code Stmt
  /-- the scope it was made in; the global one if there is none -/
  scope : Option ScopeRef
  /-- the `this` of an arrow -/
  boundThis : Value
  file : String

/-- What a walk still has to give: the elements of an object from an index on, or the characters of
a text. -/
inductive Walk where
  | elements (r : Ref) (index : Nat)
  | characters (rest : List UInt16)
  | done
  deriving DecidableEq, Repr

/-- What an object is besides its properties. -/
inductive Nature where
  | plain
  | array
  /-- an iterator over a list or a text -/
  | walk (w : Walk)
  | error
  | closure (c : Closure)
  | builtIn (f : BuiltIn)
  /-- a function that calls the host -/
  | proxy (target : CallTarget)
  /-- a primitive as an object -/
  | wrapper (v : Value)
  | date (millis : Double)
  /-- a result that is still to come; what waits for it does not run -/
  | promise

/-- An object: its prototype, whether it takes further properties, the properties in order, and what
it is besides. -/
structure Object where
  proto : Option Ref
  extensible : Bool
  properties : Array (Key × Property)
  nature : Nature

instance : Inhabited Object := ⟨⟨none, true, #[], .plain⟩⟩

/-- How a variable takes an assignment. -/
inductive Hold where
  | free
  /-- with an error -/
  | constant
  /-- the name of a function within itself: with an error in strict code, else not at all -/
  | ownName
  deriving DecidableEq, Repr

/-- A variable of a scope. -/
structure Variable where
  name : Utf16
  /-- nothing before its declaration has run -/
  value : Option Value
  hold : Hold

/-- The variables of a piece of code, within those of the code around it. -/
structure Scope where
  vars : Array Variable
  parent : Option ScopeRef

instance : Inhabited Scope := ⟨⟨#[], none⟩⟩

/-! ## The machine -/

/-- A function that is running, or the code of a source. -/
structure Run where
  /-- none for the code of a source -/
  function : Option Ref
  /-- the file of its code, unless it is built in -/
  file : Option String
  mark : Mark
  /-- the innermost scope -/
  scope : Option ScopeRef
  /-- the innermost scope that is not its own -/
  outer : Option ScopeRef
  /-- the value of the last expression statement -/
  completion : Value

/-- All that scripts have made, and the code that is running. -/
structure Machine where
  /-- the number of activities that have begun and not ended -/
  working : Nat
  objects : Array Object
  scopes : Array Scope
  symbols : Array (Option Utf16)
  /-- innermost first -/
  runs : List Run
  /-- the bytes that a text may take -/
  textLimit : Option Nat
  /-- the number of functions that may run at once -/
  depthLimit : Nat
  zone : Time.Zone

instance : Inhabited Machine := ⟨⟨0, #[], #[], #[], [], none, 0, .utc⟩⟩

/-! ## Scripts -/

/-- Why a script comes to no value. -/
inductive Stop where
  | thrown (v : Value)
  /-- a loop went on beyond any bound -/
  | endless
  deriving DecidableEq, Repr

/-- A call of a function, by `new` perhaps. -/
structure Invocation where
  callee : Value
  this : Value
  args : List Value
  isNew : Bool

/-- How functions are called. -/
abbrev Call := Invocation → Machine → Activity Machine (Except Stop Value)

/-- A piece of script that can call functions. -/
def Exec (α : Type) := Call → Machine → Activity Machine (Except Stop α)

namespace Exec

variable {α β : Type}

/-- Comes to a value at once. -/
@[inline] def pure (a : α) : Exec α := fun _ m => .done (.ok a) m

/-- Goes on with `f` where a value is come to. -/
@[inline] def bind (x : Exec α) (f : α → Exec β) : Exec β := fun call m =>
  (x call m).bind fun r m =>
    match r with
    | .ok a => f a call m
    | .error stop => .done (.error stop) m

@[always_inline] instance : Monad Exec where
  pure := Exec.pure
  bind := Exec.bind

instance : Inhabited (Exec α) := ⟨fun _ m => .done (.error .endless) m⟩

/-- Stops with a thrown value. -/
@[inline] def throwValue (v : Value) : Exec α := fun _ m => .done (.error (.thrown v)) m

/-- Comes to no value. -/
@[inline] def stop (s : Stop) : Exec α := fun _ m => .done (.error s) m

/-- What came of it, a stop included. -/
def attempt (x : Exec α) : Exec (Except Stop α) := fun call m =>
  (x call m).bind fun r m => .done (.ok r) m

/-- Goes on with the value thrown, if one is. -/
def catching (x : Exec α) (handler : Value → Exec α) : Exec α := do
  match ← attempt x with
  | .ok a => Pure.pure a
  | .error (.thrown v) => handler v
  | .error s => stop s

/-- Does `last` whatever comes of `x`. -/
def after (x : Exec α) (last : Exec Unit) : Exec α := do
  let r ← attempt x
  last
  match r with
  | .ok a => Pure.pure a
  | .error s => stop s

/-- The machine as it is. -/
@[inline] def machine : Exec Machine := fun _ m => .done (.ok m) m

/-- Looks at the machine. -/
@[inline] def read (f : Machine → α) : Exec α := fun _ m => .done (.ok (f m)) m

/-- Changes the machine. -/
@[inline] def modify (f : Machine → Machine) : Exec Unit := fun _ m => .done (.ok ()) (f m)

/-- Changes the machine and takes something out of it. -/
@[inline] def update (f : Machine → α × Machine) : Exec α := fun _ m =>
  let (a, m) := f m
  .done (.ok a) m

/-- Calls a function. -/
def apply (f this : Value) (args : List Value) : Exec Value := fun call m =>
  call ⟨f, this, args, false⟩ m

/-- Calls a function by `new`, with the object it is to work on. -/
def applyNew (f this : Value) (args : List Value) : Exec Value := fun call m =>
  call ⟨f, this, args, true⟩ m

/-- Calls the host. -/
def host (target : CallTarget) (args : List ScriptValue) : Exec Answer := fun _ m =>
  .call target args m fun answer m => .done (.ok answer) m

end Exec

/-! ## Objects that every machine has -/

/-- These come first among the objects, in this order. -/
inductive Intrinsic where
  | objectProto
  | functionProto
  | global
  | arrayProto
  | errorProto
  | typeErrorProto
  | rangeErrorProto
  | referenceErrorProto
  | syntaxErrorProto
  | internalErrorProto
  | textProto
  | numberProto
  | boolProto
  | symbolProto
  | bigIntProto
  | dateProto
  | promiseProto
  | elementsProto
  | charactersProto
  deriving DecidableEq, Repr

namespace Intrinsic

/-- The objects that every machine has, in their order. -/
def all : List Intrinsic :=
  [objectProto, functionProto, global, arrayProto, errorProto, typeErrorProto, rangeErrorProto,
    referenceErrorProto, syntaxErrorProto, internalErrorProto, textProto, numberProto, boolProto,
    symbolProto, bigIntProto, dateProto, promiseProto, elementsProto, charactersProto]

/-- Where such an object is. -/
def ref (i : Intrinsic) : Ref := ⟨all.findIdx (· == i)⟩

end Intrinsic

/-- The prototype of the errors of a class. -/
def ErrorClass.proto : ErrorClass → Intrinsic
  | error => .errorProto
  | type => .typeErrorProto
  | range => .rangeErrorProto
  | reference => .referenceErrorProto
  | syntaxError => .syntaxErrorProto
  | internal => .internalErrorProto

/-- The scope of the names that `let` and `const` declare outside functions. -/
def globalScope : ScopeRef := ⟨0⟩

end Drawbridge.Script
