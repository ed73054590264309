import Drawbridge.Fault
import Drawbridge.Handle
import Drawbridge.Settings
import Drawbridge.Switchboard

/-!
# Host programs

What host code does: it works on a memory of its own, asks the bridge, and ends with a value or
panics. The bodies of host methods are such programs, and so is the code that drives interpreters.
`Program.withInterpreter` gives a program an interpreter and closes it on every way out.
-/

namespace Drawbridge

/-- Names an interpreter. -/
structure InterpreterId where
  index : Nat
  deriving DecidableEq, Repr, Inhabited

/-! ## Requests -/

/-- What is done with an interpreter that must not be closed. -/
inductive Use where
  /-- without a file the one of the settings is named -/
  | evaluate (source : String) (file : Option String)
  | bind (name : String) (contract : Contract) (object : ObjectId)
  | collect
  | globals

/-- What a use comes to if nothing fails. -/
def Use.Result : Use → Type
  | evaluate .. => String
  | bind .. => Unit
  | collect => Unit
  | globals => List String

/-- What a program may ask of the bridge. -/
inductive Request where
  | create (settings : Settings)
  | use (js : InterpreterId) (what : Use)
  | close (js : InterpreterId)
  /-- gives an interpreter up without closing it -/
  | drop (js : InterpreterId)
  | handle (js : InterpreterId)
  | settings (js : InterpreterId)
  /-- the number of references that the bridge holds to an object -/
  | references (object : ObjectId)
  /-- the events since the last time they were asked for -/
  | events

/-- What the bridge replies to a request. -/
def Request.Reply : Request → Type
  | create _ => Except BridgeFault InterpreterId
  | use _ what => Except BridgeFault what.Result
  | close _ => Unit
  | drop _ => Unit
  | handle _ => Handle
  | settings _ => Settings
  | references _ => Nat
  | events => List Event

/-! ## Programs -/

/-- Host code over a memory `σ` that ends with an `α`. -/
inductive Program (σ α : Type) where
  | done (a : α)
  | panic (payload : Panic)
  | read (next : σ → Program σ α)
  | write (memory : σ) (next : Program σ α)
  | ask (request : Request) (next : request.Reply → Program σ α)

namespace Program

variable {σ α β : Type}

/-- Goes on with `f` where a program ends with a value. -/
def bind : Program σ α → (α → Program σ β) → Program σ β
  | done a, f => f a
  | panic payload, _ => panic payload
  | read next, f => read fun s => (next s).bind f
  | write s next, f => write s (next.bind f)
  | ask request next, f => ask request fun reply => (next reply).bind f

instance : Monad (Program σ) where
  pure := done
  bind := bind

instance : Inhabited (Program σ α) := ⟨panic .other⟩

/-- The memory. -/
def get : Program σ σ := read done

/-- Puts `s` in the place of the memory. -/
def set (s : σ) : Program σ Unit := write s (done ())

/-- Changes the memory. -/
def modify (f : σ → σ) : Program σ Unit := read fun s => write (f s) (done ())

/-- Makes a request and ends with the reply. -/
def request (r : Request) : Program σ r.Reply := ask r done

/-- The end of a program, whichever it is. -/
def attempt : Program σ α → Program σ (Except Panic α)
  | done a => done (.ok a)
  | panic payload => done (.error payload)
  | read next => read fun s => (next s).attempt
  | write s next => write s next.attempt
  | ask request next => ask request fun reply => (next reply).attempt

/-- Does `last` at the end of a program, whichever it is. -/
def onExit (p : Program σ α) (last : Program σ Unit) : Program σ α := do
  let r ← p.attempt
  last
  match r with
  | .ok a => return a
  | .error payload => panic payload

/-! ## Interpreters -/

/-- Asks for a new interpreter. -/
def create (settings : Settings) : Program σ (Except BridgeFault InterpreterId) :=
  request (.create settings)

/-- Asks for the value of a source as text. -/
def evaluate (js : InterpreterId) (source : String) (file : Option String) :
    Program σ (Except BridgeFault String) :=
  request (.use js (.evaluate source file))

/-- Asks for an object to be published under a name. -/
def bindObject (js : InterpreterId) (name : String) (contract : Contract) (object : ObjectId) :
    Program σ (Except BridgeFault Unit) :=
  request (.use js (.bind name contract object))

/-- Asks for a collection of what scripts can no longer reach. -/
def collect (js : InterpreterId) : Program σ (Except BridgeFault Unit) :=
  request (.use js .collect)

/-- Asks for the names that are published. -/
def globals (js : InterpreterId) : Program σ (Except BridgeFault (List String)) :=
  request (.use js .globals)

/-- Closes an interpreter. -/
def close (js : InterpreterId) : Program σ Unit := request (.close js)

/-- Gives an interpreter up. -/
def drop (js : InterpreterId) : Program σ Unit := request (.drop js)

/-- Asks for the handle of an interpreter, which is null once it is closed. -/
def handle (js : InterpreterId) : Program σ Handle := request (.handle js)

/-- Asks for the settings of an interpreter. -/
def settings (js : InterpreterId) : Program σ Settings := request (.settings js)

/-- Asks how many references to an object the bridge holds. -/
def references (object : ObjectId) : Program σ Nat := request (.references object)

/-- Asks for the events since the last time they were asked for. -/
def events : Program σ (List Event) := request .events

/-- An interpreter for as long as `body` takes; it is closed on every way out. -/
def withInterpreter (settings : Settings) (body : InterpreterId → Program σ α) :
    Program σ (Except BridgeFault α) := do
  match ← create settings with
  | .error fault => return .error fault
  | .ok js =>
    let a ← (body js).onExit do
      close js
      drop js
    return .ok a

end Program

/-! ## Hosts -/

/-- What a method body ends with: a value, or a message of its failure. -/
abbrev MethodResult := Except String Datum

/-- The host objects over a memory. -/
structure Host (σ : Type) where
  facets : σ → ObjectId → Facets
  invoke : ObjectId → (method : String) → (args : List Datum) → Program σ MethodResult

end Drawbridge
