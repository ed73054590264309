import Drawbridge.Engine
import Drawbridge.Program
import Drawbridge.SlotMap

/-!
# The process

All interpreters of a process, and the threads that use them. An interpreter is a word that holds a
handle until it is closed. The directory leads from handles to entries; an entry has the engine, its
switchboard and a re-entrant lock. Of a thread the state says how far it is with what it does:
`Stage` names the points between which nothing else can come.
-/

namespace Drawbridge

/-- Names an entry, for good. -/
structure EntryId where
  index : Nat
  deriving DecidableEq, Repr, Inhabited

/-- Names a thread. -/
structure ThreadId where
  index : Nat
  deriving DecidableEq, Repr, Inhabited

/-! ## Entries -/

/-- What there is of an interpreter besides its handle: the engine, the switchboard, and who uses
them. -/
structure Entry (C : Type) where
  /-- the engine, until it is released -/
  engine : Option C
  board : Switchboard
  /-- the thread that has the lock, and how often -/
  lock : Option (ThreadId × Nat)
  /-- operations past their check of the engine -/
  depth : Nat
  /-- closed while operations were under way -/
  closing : Bool
  /-- references to the engine besides the entry's own -/
  pins : Nat
  /-- the thread inside the engine -/
  gate : Option ThreadId
  /-- how often the engine was released -/
  releases : Nat

/-- The entry of a new interpreter. -/
def Entry.fresh {C : Type} (c : C) : Entry C :=
  { engine := some c, board := .empty, lock := none, depth := 0, closing := false, pins := 0
    gate := none, releases := 0 }

/-- What the host has of an interpreter. -/
structure Interpreter where
  /-- the bits of the handle; 0 once closed -/
  word : UInt64
  settings : Settings

/-- The handle in the word of an interpreter. -/
def Interpreter.handle (i : Interpreter) : Handle := .ofBits i.word

/-! ## Threads -/

/-- An operation on an engine. -/
inductive Operation where
  | evaluate (source file : String)
  | bind (name : String) (roster : Roster) (object : ObjectId)
  | collect

/-- What an operation comes to if nothing fails. -/
def Operation.Result : Operation → Type
  | evaluate .. => String
  | bind .. => Unit
  | collect => Unit

/-- An operation under way on an entry, and who waits for its result. -/
structure Underway (σ : Type) where
  entry : EntryId
  operation : Operation
  back : Except BridgeFault operation.Result → Program σ MethodResult

/-- What the engine is doing for an operation. -/
structure Work (C σ : Type) where
  underway : Underway σ
  /-- whether the engine was entered from within it -/
  direct : Bool
  /-- the binding that is published if the work succeeds -/
  pending : Option Binding

/-- A call of the host in progress. The work goes on with its answer. -/
structure HostCall (C σ : Type) where
  work : Work C σ
  invocation : Invocation
  resume : Answer → C → Activity C (Except BridgeFault work.underway.operation.Result)

/-- The next thing that a thread does. -/
inductive Stage (C σ : Type) where
  /-- it runs host code -/
  | host (p : Program σ MethodResult)
  /-- it looks a handle up in the directory -/
  | find (h : Handle) (what : Use) (back : Except BridgeFault what.Result → Program σ MethodResult)
  /-- it reads the names on a switchboard -/
  | names (e : EntryId) (back : Except BridgeFault (List String) → Program σ MethodResult)
  /-- it takes the lock -/
  | lock (u : Underway σ)
  /-- it sees whether the engine is still there -/
  | check (u : Underway σ)
  /-- it enters the engine -/
  | enter (u : Underway σ) (pending : Option Binding)
  /-- the engine has come to a result or to a call of the host -/
  | work (w : Work C σ) (a : Activity C (Except BridgeFault w.underway.operation.Result))
  /-- it leaves the engine -/
  | leave (w : Work C σ) (r : Except BridgeFault w.underway.operation.Result)
  /-- it publishes what the work was for -/
  | publish (w : Work C σ) (r : Except BridgeFault w.underway.operation.Result)
  /-- it counts the operation as over, and releases the engine if that was left to it -/
  | finish (u : Underway σ) (r : Except BridgeFault u.operation.Result)
  /-- it gives the lock back -/
  | unlock (u : Underway σ) (r : Except BridgeFault u.operation.Result)
  /-- closing: it takes the entry out of the directory -/
  | vacate (h : Handle) (back : Program σ MethodResult)
  /-- closing: it takes the lock -/
  | lockToClose (e : EntryId) (back : Program σ MethodResult)
  /-- closing: it releases the engine, or leaves that to the operations under way -/
  | destroy (e : EntryId) (back : Program σ MethodResult)
  /-- closing: it gives the lock back -/
  | unlockClosed (e : EntryId) (back : Program σ MethodResult)

/-- A thread: the next thing it does, and the calls that it is in. -/
structure Thread (C σ : Type) where
  stage : Stage C σ
  /-- calls of the host in progress, innermost first -/
  calls : List (HostCall C σ)
  /-- the entries whose engines are in a call of the host, innermost first -/
  active : List EntryId

/-! ## The state -/

/-- Interpreters and threads with all they share. -/
structure Process (E : Engine) (σ : Type) where
  entries : Array (Entry E.Context)
  directory : SlotMap EntryId
  interpreters : Array Interpreter
  threads : Array (Thread E.Context σ)
  memory : σ
  /-- what was reported, the latest first -/
  log : List Event

namespace Process

variable {E : Engine} {σ : Type}

/-- A process with a memory and one thread for each program. -/
def start (E : Engine) (memory : σ) (programs : List (Program σ MethodResult)) : Process E σ :=
  { entries := #[]
    directory := .empty
    interpreters := #[]
    threads := (programs.map fun p => ⟨.host p, [], []⟩).toArray
    memory
    log := [] }

/-- The entry of a name, if there is one. -/
def entry? (p : Process E σ) (e : EntryId) : Option (Entry E.Context) := p.entries[e.index]?

/-- Changes one entry, if it is there. -/
def modifyEntry (p : Process E σ) (e : EntryId) (f : Entry E.Context → Entry E.Context) :
    Process E σ :=
  { p with entries := p.entries.modify e.index f }

/-- The interpreter of a name, if there is one. -/
def interpreter? (p : Process E σ) (js : InterpreterId) : Option Interpreter :=
  p.interpreters[js.index]?

/-- The handle of an interpreter, null where there is none. -/
def handleOf (p : Process E σ) (js : InterpreterId) : Handle :=
  ((p.interpreter? js).map Interpreter.handle).getD .null

/-- The settings of an interpreter, the default ones where there is none. -/
def settingsOf (p : Process E σ) (js : InterpreterId) : Settings :=
  ((p.interpreter? js).map (·.settings)).getD default

/-- Reports events. -/
def report (p : Process E σ) (events : List Event) : Process E σ :=
  { p with log := events.reverse ++ p.log }

/-- Puts a thread in the place of the one that there was. -/
def setThread (p : Process E σ) (t : ThreadId) (thread : Thread E.Context σ) : Process E σ :=
  { p with threads := p.threads.setIfInBounds t.index thread }

/-- The bindings that an entry holds, once for each time: as published, and through proxies. -/
def heldBy (E : Engine) (e : Entry E.Context) : List Binding :=
  e.board.published ++ (e.engine.map E.proxies).getD []

/-- The bindings that the bridge holds, those of calls in progress included. -/
def held (p : Process E σ) : List Binding :=
  p.entries.toList.flatMap (heldBy E)
    ++ p.threads.toList.flatMap fun t => t.calls.map (·.invocation.binding)

/-- The number of references to an object that the bridge holds. -/
def references (p : Process E σ) (object : ObjectId) : Nat :=
  p.held.countP (·.object == object)

end Process

end Drawbridge
