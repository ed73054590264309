import Drawbridge.Contract
import Drawbridge.ScriptValue

/-!
# Switchboard

A `Binding` is a host object under a name; the `Switchboard` of an interpreter holds the binding
published under each name. A call from script names a binding and the place of a method
(`CallTarget`). `Switchboard.route` takes it through the gate: is the name published, does the
method exist, do number and types of the arguments fit. Only a call that passes becomes an
`Invocation` of the host, and `Invocation.settle` holds what the host did against the signature.
-/

namespace Drawbridge

/-- Names a host object. -/
structure ObjectId where
  index : Nat
  deriving DecidableEq, Repr, Inhabited

/-- A host object under a name: its methods as they were checked, and an identity of its own. -/
structure Binding where
  id : Nat
  name : String
  roster : Roster
  object : ObjectId
  deriving DecidableEq, Repr

/-- What a function of a proxy calls: a method of a binding, by its place. -/
structure CallTarget where
  binding : Binding
  method : Nat
  deriving DecidableEq, Repr

/-! ## Faults of a call -/

/-- Why a call from script is not carried out, or comes to no value. -/
inductive CallFault where
  | unknownGlobal (name : String)
  | unknownMethod (name : String) (index : Nat)
  | arity (method : String) (expected given : Nat)
  | mismatch (method : String) (index : Nat) (expected : Kind) (found : String)
  | host (method message : String)
  deriving DecidableEq, Repr

namespace CallFault

/-- What the script is told. -/
def message : CallFault → String
  | unknownGlobal name => "unknown global '" ++ name ++ "'"
  | unknownMethod name index => "'" ++ name ++ "' has no method at index " ++ toString index
  | arity method expected given =>
    method ++ " expects " ++ toString expected ++ " argument(s), received " ++ toString given
  | mismatch method index expected found =>
    "argument " ++ toString index ++ " of " ++ method ++ " must be " ++ expected.label
      ++ ", received " ++ found
  | host method message => method ++ " failed: " ++ message

/-- The class of error that script sees. -/
inductive Severity where
  /-- what was called is not there -/
  | reference
  /-- the arguments do not fit -/
  | type
  /-- the host failed -/
  | plain
  deriving DecidableEq, Repr

/-- The class of error that a fault is to a script. -/
def severity : CallFault → Severity
  | unknownGlobal .. | unknownMethod .. => .reference
  | arity .. | mismatch .. => .type
  | host .. => .plain

end CallFault

/-! ## What a host method did -/

/-- What a failing method throws up: text, or something that is no text. -/
inductive Panic where
  | text (s : String)
  | other
  deriving DecidableEq, Repr

/-- What is said of a method that has panicked. -/
def Panic.message : Panic → String
  | text s => "panicked: " ++ s
  | other => "panicked"

/-- What a host method did: it returned a value, failed with a message or panicked. -/
inductive Outcome where
  | returned (value : Datum)
  | failed (message : String)
  | panicked (payload : Panic)
  deriving DecidableEq, Repr

/-! ## Calls of a binding -/

/-- A call that the host is to carry out. -/
structure Invocation where
  binding : Binding
  signature : Signature
  args : List Datum
  deriving DecidableEq, Repr

namespace Binding

/-- The name of a method with the name of its global. -/
def qualified (b : Binding) (s : Signature) : String := b.name ++ "." ++ s.name

/-- The parts by name. -/
def describe (b : Binding) : String :=
  "BoundGlobal \x7b id: " ++ toString b.id ++ ", name: " ++ quoted b.name ++ ", capability: "
    ++ quoted b.roster.contract ++ " \x7d"

/-- The method at a place, provided that it takes so many arguments. -/
def signature (b : Binding) (index given : Nat) : Except CallFault Signature :=
  match b.roster.method? index with
  | none => .error (.unknownMethod b.name index)
  | some s =>
    if given = s.arity then .ok s else .error (.arity (b.qualified s) s.arity given)

/-- Each argument through `convert` at its parameter, up to the first that does not fit. -/
def convertArgs {α : Type} (convert : Kind → α → Except String Datum) (method : String) :
    Nat → List Kind → List α → Except CallFault (List Datum)
  | index, kind :: kinds, a :: rest =>
    match convert kind a with
    | .error found => .error (.mismatch method index kind found)
    | .ok d => (d :: ·) <$> convertArgs convert method (index + 1) kinds rest
  | _, _, _ => .ok []

/-- A host value stands only for a parameter of its own kind. -/
def exactly (kind : Kind) (d : Datum) : Except String Datum :=
  if d.kind = kind then .ok d else .error d.kind.label

/-- A script value stands for a parameter it can be read as. -/
def reading (kind : Kind) (v : ScriptValue) : Except String Datum :=
  match ScriptValue.read kind v with
  | .ok d => .ok d
  | .error found => .error found.name

/-- The call with arguments of the host. -/
def invocation (b : Binding) (index : Nat) (args : List Datum) : Except CallFault Invocation := do
  let s ← b.signature index args.length
  let args ← convertArgs exactly (b.qualified s) 0 s.params args
  return ⟨b, s, args⟩

/-- The call with arguments of a script. -/
def scriptInvocation (b : Binding) (index : Nat) (args : List ScriptValue) :
    Except CallFault Invocation := do
  let s ← b.signature index args.length
  let args ← convertArgs reading (b.qualified s) 0 s.params args
  return ⟨b, s, args⟩

end Binding

namespace Invocation

/-- What is reported of a call that is carried out. -/
def event (i : Invocation) : Event := .dispatching i.binding.name i.signature.name

/-- What the caller gets. A method without result drops what the host returned; any other returns
its declared kind or is at fault. -/
def settle (i : Invocation) (outcome : Outcome) : Except CallFault Datum :=
  let fault (message : String) : Except CallFault Datum :=
    .error (.host (i.binding.qualified i.signature) message)
  match outcome with
  | .failed message => fault message
  | .panicked payload => fault payload.message
  | .returned value =>
    if i.signature.result = .void then .ok .void
    else if value.kind = i.signature.result then .ok value
    else fault ("returned " ++ value.kind.label ++ " but declares " ++ i.signature.result.label)

/-- What the calling script gets. -/
def reply (i : Invocation) (outcome : Outcome) : Except CallFault ScriptValue :=
  ScriptValue.ofDatum <$> i.settle outcome

end Invocation

/-- A call with arguments of the host. At an invocation `perform` says what the host does and what
becomes of it. -/
def Binding.call {σ : Type} (perform : Invocation → σ → Outcome × σ) (b : Binding) (index : Nat)
    (args : List Datum) (s : σ) : Except CallFault Datum × σ :=
  match b.invocation index args with
  | .error fault => (.error fault, s)
  | .ok i =>
    let (outcome, s) := perform i s
    (i.settle outcome, s)

/-! ## The board -/

/-- The bindings of an interpreter by the names that they are published under. -/
structure Switchboard where
  /-- the number of bindings prepared so far, which is the last identity given -/
  prepared : Nat
  /-- the published bindings, no two of one name -/
  published : List Binding
  deriving DecidableEq, Repr

namespace Switchboard

/-- The switchboard of a new interpreter. -/
def empty : Switchboard := ⟨0, []⟩

instance : Inhabited Switchboard := ⟨empty⟩

/-- Makes a binding with an identity of its own and does not publish it. -/
def prepare (board : Switchboard) (name : String) (roster : Roster) (object : ObjectId) :
    Binding × Switchboard :=
  (⟨board.prepared + 1, name, roster, object⟩, { board with prepared := board.prepared + 1 })

/-- The binding that is published under a name. -/
def get? (board : Switchboard) (name : String) : Option Binding :=
  board.published.find? (·.name == name)

/-- Publishes a binding under its name, in place of the one that was there. -/
def commit (board : Switchboard) (b : Binding) : Switchboard :=
  { board with published := b :: board.published.filter (·.name != b.name) }

/-- What is reported of a commit. -/
def commitEvents (board : Switchboard) (b : Binding) : List Event :=
  match board.get? b.name with
  | some old => [.replaced old.name old.id]
  | none => []

/-- Takes back all that is published. Identities go on from the last one given. -/
def clear (board : Switchboard) : Switchboard := { board with published := [] }

/-- The number of published bindings. -/
def size (board : Switchboard) : Nat := board.published.length

/-- Whether nothing is published. -/
def isEmpty (board : Switchboard) : Bool := board.published.isEmpty

/-- The published names in order. -/
def names (board : Switchboard) : List String :=
  (board.published.map (·.name)).mergeSort fun a b => decide (a ≤ b)

/-- The binding a call goes to: the one it was made for, as long as its name is published. -/
def resolve (board : Switchboard) (target : CallTarget) : Option Binding :=
  (board.get? target.binding.name).map fun _ => target.binding

/-- A call from script through the gate. -/
def route (board : Switchboard) (target : CallTarget) (args : List ScriptValue) :
    Except CallFault Invocation :=
  match board.resolve target with
  | none => .error (.unknownGlobal target.binding.name)
  | some b => b.scriptInvocation target.method args

/-- A call from script. At an invocation `perform` says what the host does and what becomes of
it. -/
def dispatch {σ : Type} (perform : Invocation → σ → Outcome × σ) (board : Switchboard)
    (target : CallTarget) (args : List ScriptValue) (s : σ) : Except CallFault ScriptValue × σ :=
  match board.route target args with
  | .error fault => (.error fault, s)
  | .ok i =>
    let (outcome, s) := perform i s
    (i.reply outcome, s)

end Switchboard

end Drawbridge
