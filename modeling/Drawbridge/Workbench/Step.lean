import Drawbridge.HostObject.Puppet
import Drawbridge.Script.Inspection

/-!
# Steps at the workbench

At the workbench one switchboard is worked by hand: bindings are prepared and published one at a
time and called from both sides, without an interpreter around them.
-/

namespace Drawbridge.Workbench

/-- One step at the workbench. -/
inductive Step where
  | object (name : String) (o : HostObject Behaviour)
  /-- Prepares a binding and labels it. Another object may be held against the contract. -/
  | prepare (label name object : String) (contract : Contract) (describedBy : Option String)
  | commit (label : String)
  | get (name : String)
  | names
  | clear
  | resolve (label : String) (method : Nat)
  | call (label : String) (method : Nat) (args : List Datum)
  /-- Calls from script with the values of sources. -/
  | dispatch (label : String) (method : Nat) (sources : List String)
  /-- Installs a proxy in the engine of the workbench. -/
  | install (label : String)
  | evaluate (source : String) (file : Option String)
  /-- Lets the engine go. -/
  | destroy
  | forget (label : String)
  /-- Whether nothing refers to the object. -/
  | released (object : String)
  | calls (object : String)
  | events

/-- Why a step comes to nothing. -/
inductive Fault where
  | noGlobal
  | noObject
  | refused (refusal : Refusal)
  | call (fault : CallFault)
  /-- What script threw, in words. -/
  | thrown (words : Script.Wording)
  | bridge (fault : BridgeFault)
  deriving DecidableEq, Repr

/-- What a step is answered. -/
inductive Reply where
  | void
  | flag (b : Bool)
  | text (s : String)
  | size (n : Nat)
  | binding (b : Option Binding)
  | names (list : List String)
  | resolved (id : Option Nat)
  | value (d : Datum)
  | look (l : Script.Look)
  | calls (list : List CallRecord)
  | events (list : List Event)
  | fault (f : Fault)
  deriving DecidableEq, Repr

end Drawbridge.Workbench
