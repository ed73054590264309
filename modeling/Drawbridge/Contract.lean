import Drawbridge.Event
import Drawbridge.Kind

/-!
# Contracts

A contract lists the methods that a host object offers to script. `Contract.check` holds it against
an object and gives the `Roster`, the method table by which calls are made; a contract that cannot
be bound is refused for the first reason found.
-/

namespace Drawbridge

/-- A method as a contract declares it: its name, the kinds of its parameters and of its result. -/
structure Signature where
  name : String
  params : List Kind
  result : Kind
  deriving DecidableEq, Repr

namespace Signature

/-- The number of arguments that a method takes. -/
def arity (s : Signature) : Nat := s.params.length

end Signature

/-- The methods that a host object offers to script, under the name of its type. -/
structure Contract where
  name : String
  /-- a class carries state, and is never bound -/
  isClass : Bool
  supertypes : List String
  methods : List Signature
  deriving DecidableEq, Repr

/-- A checked method table. Calls name a method by its place. -/
structure Roster where
  contract : String
  methods : List Signature
  deriving DecidableEq, Repr

namespace Roster

/-- The method at a place of the table. -/
def method? (r : Roster) (index : Nat) : Option Signature := r.methods[index]?

/-- The place of the first method of that name. -/
def indexOf? (r : Roster) (name : String) : Option Nat :=
  r.methods.findIdx? (·.name == name)

/-- The number of methods. -/
def size (r : Roster) : Nat := r.methods.length

/-- Whether there are no methods. -/
def isEmpty (r : Roster) : Bool := r.methods.isEmpty

end Roster

/-! ## Refusals -/

/-- Why a contract is not bound. -/
inductive Refusal where
  /-- the global has no name -/
  | unnamed
  | notInterface (contract : String)
  | notFlat (contract : String) (supertypes : List String)
  /-- the object is not of the contract's type, or it lacks a method -/
  | unsatisfied (contract : String) (lacking : Option String)
  | unsupportedResult (method : String) (kind : Kind)
  | unsupportedParameter (method : String) (kind : Kind)
  | overloaded (contract method : String)
  deriving DecidableEq, Repr

namespace Refusal

/-- What the host is told of a refusal. -/
def message : Refusal → String
  | unnamed => "global name must not be empty"
  | notInterface contract => "only interfaces can be bound, received '" ++ contract ++ "'"
  | notFlat contract supertypes =>
    "'" ++ contract ++ "' must not extend other capability types (extends "
      ++ quotedList supertypes ++ ")"
  | unsatisfied contract _ => "host object is not an instance of '" ++ contract ++ "'"
  | unsupportedResult method kind =>
    "return type " ++ kind.label ++ " on " ++ method ++ " is not supported"
  | unsupportedParameter method kind =>
    "parameter type " ++ kind.label ++ " on " ++ method ++ " is not supported"
  | overloaded contract method => method ++ " is overloaded in '" ++ contract ++ "'"

/-- What is reported besides the refusal itself. -/
def events : Refusal → List Event
  | unsatisfied contract (some method) => [.lacking contract method]
  | _ => []

end Refusal

/-! ## The check -/

namespace Signature

/-- The result is looked at first, then the parameters in order. -/
def checkKinds (s : Signature) : Except Refusal Unit :=
  if !s.result.isResult then .error (.unsupportedResult s.name s.result)
  else
    match s.params.find? fun kind => !kind.isParameter with
    | some kind => .error (.unsupportedParameter s.name kind)
    | none => .ok ()

end Signature

/-- What an object says of itself when a contract is held against it. -/
structure Facets where
  implements : String → Bool
  respondsTo : String → Bool

namespace Contract

/-- Each method in turn: its kinds, then whether its name came before. -/
def checkMethods (contract : String) : List String → List Signature → Except Refusal Unit
  | _, [] => .ok ()
  | seen, m :: rest => do
    m.checkKinds
    if seen.contains m.name then .error (.overloaded contract m.name)
    else checkMethods contract (m.name :: seen) rest

/-- The roster of a contract for an object of these facets. -/
def check (c : Contract) (object : Facets) : Except Refusal Roster :=
  if c.isClass then .error (.notInterface c.name)
  else if !c.supertypes.isEmpty then .error (.notFlat c.name c.supertypes)
  else if !object.implements c.name then .error (.unsatisfied c.name none)
  else
    match c.methods.find? fun m => !object.respondsTo m.name with
    | some m => .error (.unsatisfied c.name (some m.name))
    | none => do
      checkMethods c.name [] c.methods
      return ⟨c.name, c.methods⟩

end Contract

end Drawbridge
