/-!
# Events

What the bridge reports of its own work while it runs, each event with its level, its words and the
named particulars.
-/

namespace Drawbridge

/-- One thing that the bridge reports. -/
inductive Event where
  /-- an interpreter came to life -/
  | created
  /-- an interpreter was closed -/
  | closed
  /-- the engine of a closed interpreter was let go -/
  | destroyed
  /-- the engine of a closed interpreter was still in use when it was let go -/
  | shared
  /-- a close found work under way, and left the engine to it -/
  | deferred
  /-- an interpreter was dropped and never closed -/
  | leaked
  /-- the engine could not be set up -/
  | unallocated
  /-- a host object does not have a method that its contract declares -/
  | lacking (contract method : String)
  | bound (name contract : String) (methods : Nat)
  | replaced (name : String) (binding : Nat)
  | dispatching (name method : String)
  deriving DecidableEq, Repr

namespace Event

/-- How much an event matters. -/
inductive Level where
  | trace
  | debug
  | warn
  deriving DecidableEq, Repr

/-- The name that a report shows. -/
def Level.name : Level → String
  | trace => "TRACE"
  | debug => "DEBUG"
  | warn => "WARN"

/-- The level at which an event is reported. -/
def level : Event → Level
  | destroyed | replaced .. | dispatching .. => .trace
  | leaked | shared => .warn
  | created | closed | deferred | unallocated | lacking .. | bound .. => .debug

/-- The words of a report. -/
def message : Event → String
  | created => "interpreter created"
  | closed => "interpreter closed"
  | destroyed => "engine context destroyed"
  | shared => "engine context still shared at destroy"
  | deferred => "close requested mid-operation, deferring destroy"
  | leaked => "interpreter dropped without close; engine instance leaked"
  | unallocated => "engine context allocation failed"
  | lacking .. => "host object lacks declared method"
  | bound .. => "bound global"
  | replaced .. => "replaced global"
  | dispatching .. => "dispatching host call"

/-- The particulars by name. -/
def fields : Event → List (String × String)
  | unallocated => [("err", "Allocation failed while creating object")]
  | lacking contract method => [("capability", contract), ("method", method)]
  | bound name contract methods =>
    [("name", name), ("capability", contract), ("methods", toString methods)]
  | replaced name binding => [("name", name), ("binding", toString binding)]
  | dispatching name method => [("global", name), ("method", method)]
  | created | closed | destroyed | shared | deferred | leaked => []

end Event

end Drawbridge
