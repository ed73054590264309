import Drawbridge.HostObject.Puppet

/-!
# Steps of a session

A session is a list of steps with interpreters and host objects that go by names. Each step has a
reply. Method bodies of the objects may be steps themselves.
-/

namespace Drawbridge.Session

/-! ## Steps -/

mutual

/-- One step of a session. -/
inductive Step where
  /-- An interpreter with settings from a JSON text, in place of the one of that name. -/
  | create (js : String) (settings : Option String)
  /-- A host object of some types, with methods as given in turn. -/
  | object (name type : String) (further : List String) (methods : List (String × Body))
  /-- A body that evaluates no source of its own evaluates its first argument. -/
  | evaluate (js : String) (source file : Option String)
  | bind (js name : String) (contract : Contract) (object : String)
  | globals (js : String)
  | collect (js : String)
  | close (js : String)
  /-- The interpreter is forgotten and not closed. -/
  | drop (js : String)
  | state (js : String)
  /-- Whether nothing of the bridge refers to the object. -/
  | released (object : String)
  /-- The calls of an object since they were last asked for. -/
  | calls (object : String)
  /-- The events since they were last asked for. -/
  | events
  /-- Threads that evaluate one source a number of times each, up to a failure. -/
  | evaluateThreads (js : String) (threads times : Nat) (source : String)
  | closeThreads (js : String) (threads : Nat)
  /-- An interpreter for as long as some steps take. They may end in a panic. -/
  | within (js : String) (settings : Option String) (steps : List Step) (panic : Option String)

/-- The body of a method: a behaviour, or a step of the session. -/
inductive Body where
  | plain (behaviour : Behaviour)
  | step (step : Step)

end

instance : Inhabited Step := ⟨.events⟩

instance : Inhabited Body := ⟨.step default⟩

/-! ## Replies -/

/-- Why a step comes to nothing. -/
inductive Fault where
  | noInterpreter
  | noObject
  | settings (fault : Settings.Fault)
  | bridge (fault : BridgeFault)
  deriving DecidableEq, Repr

/-- What is said of a step that comes to nothing. -/
def Fault.message : Fault → String
  | noInterpreter => "no such interpreter"
  | noObject => "no such object"
  | settings fault => fault.message
  | bridge fault => fault.message

/-- How an interpreter is. -/
structure Standing where
  handle : Handle
  /-- the name its handle goes by -/
  label : String
  /-- the file name of sources that are given none -/
  file : String
  deriving DecidableEq, Repr

namespace Standing

/-- Whether the interpreter is closed. -/
def isClosed (s : Standing) : Bool := s.handle.isNull

/-- The name of the state. -/
def state (s : Standing) : String := if s.isClosed then "Closed" else "Live"

/-- The parts by name. -/
def describe (s : Standing) : String :=
  "Interpreter \x7b handle: " ++ s.handle.describe ++ ", state: " ++ s.state ++ " \x7d"

end Standing

/-- What a step is answered. -/
inductive Reply where
  | void
  | flag (b : Bool)
  | text (s : String)
  | names (list : List String)
  | standing (s : Standing)
  | calls (list : List CallRecord)
  | events (list : List Event)
  /-- the replies of steps within an interpreter of that label -/
  | within (label : String) (replies : List Reply)
  /-- a panic after some replies -/
  | panicked (message : String) (replies : List Reply)
  | fault (f : Fault)

/-- What a body that is a step ends with: text as it is, names in one text, anything else as
void. -/
def Reply.toResult : Reply → MethodResult
  | text s | within s _ => .ok (.text s)
  | names list => .ok (.text (",".intercalate list))
  | panicked message _ => .error message
  | fault f => .error f.message
  | void | flag _ | standing _ | calls _ | events _ => .ok .void

end Drawbridge.Session
