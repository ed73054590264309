import Drawbridge.HostObject.Basic
import Drawbridge.HostObject.Behaviour

/-!
# Puppets

A puppet is a host object that keeps account of the calls made to it.
-/

namespace Drawbridge

/-- A call of a method, as the host sees it. -/
structure CallRecord where
  method : String
  args : List Datum
  deriving DecidableEq, Repr

/-- A host object, and what it was called for. -/
structure Puppet (β : Type) where
  object : HostObject β
  /-- how often each method was called -/
  counts : List (String × Nat)
  /-- the calls since they were last asked for, the latest first -/
  records : List CallRecord

namespace Puppet

variable {β : Type}

/-- A puppet to which no call was made yet. -/
def ofObject (o : HostObject β) : Puppet β := ⟨o, [], []⟩

/-- How often a method was called. -/
def count (p : Puppet β) (method : String) : Nat := (p.counts.lookup method).getD 0

/-- Takes a call down. -/
def record (p : Puppet β) (method : String) (args : List Datum) : Puppet β :=
  { p with
    counts := (method, p.count method + 1) :: p.counts.filter (·.1 != method)
    records := ⟨method, args⟩ :: p.records }

/-- Makes a call. One of a method that is not there fails and is not taken down. -/
def invoke (p : Puppet Behaviour) (method : String) (args : List Datum) :
    Outcome × Puppet Behaviour :=
  match p.object.body? method with
  | none => (.failed (HostObject.lackingMessage method), p)
  | some body => (body.outcome (p.count method + 1) args, p.record method args)

/-- The outcomes of calls in turn. -/
def invokeAll (p : Puppet Behaviour) : List (String × List Datum) → List Outcome × Puppet Behaviour
  | [] => ([], p)
  | (method, args) :: rest =>
    let (outcome, p) := p.invoke method args
    let (outcomes, p) := p.invokeAll rest
    (outcome :: outcomes, p)

/-- The calls since they were last asked for, in order. -/
def takeRecords (p : Puppet β) : List CallRecord × Puppet β :=
  (p.records.reverse, { p with records := [] })

end Puppet

/-! ## Casts -/

/-- Puppets by name. A name that is given again goes to the new puppet; the old one lives on without
a name. -/
structure Cast (β : Type) where
  puppets : Array (Puppet β)
  names : List (String × ObjectId)

namespace Cast

variable {β : Type}

/-- The cast without puppets. -/
def empty : Cast β := ⟨#[], []⟩

/-- Gives the cast a new puppet under a name. -/
def add (c : Cast β) (name : String) (o : HostObject β) : Cast β :=
  { puppets := c.puppets.push (.ofObject o)
    names := (name, ⟨c.puppets.size⟩) :: c.names.filter (·.1 != name) }

/-- The puppet that has a name now. -/
def find? (c : Cast β) (name : String) : Option ObjectId := c.names.lookup name

/-- The puppet that an object is. -/
def puppet? (c : Cast β) (id : ObjectId) : Option (Puppet β) := c.puppets[id.index]?

/-- Puts a puppet in the place of the one that an object is. -/
def setPuppet (c : Cast β) (id : ObjectId) (p : Puppet β) : Cast β :=
  { c with puppets := c.puppets.setIfInBounds id.index p }

/-- What a puppet says of itself. Where there is none, nothing. -/
def facets (c : Cast β) (id : ObjectId) : Facets :=
  match c.puppet? id with
  | some p => p.object.facets
  | none => ⟨fun _ => false, fun _ => false⟩

/-- The body that a call runs and the number of the call, which is taken down. None if the puppet
has no such method. -/
def call (c : Cast β) (id : ObjectId) (method : String) (args : List Datum) :
    Option (β × Nat × Cast β) :=
  match c.puppet? id with
  | none => none
  | some p =>
    (p.object.body? method).map fun body =>
      (body, p.count method + 1, c.setPuppet id (p.record method args))

/-- The calls of a puppet since they were last asked for. -/
def takeRecords (c : Cast β) (id : ObjectId) : List CallRecord × Cast β :=
  match c.puppet? id with
  | none => ([], c)
  | some p =>
    let (records, p) := p.takeRecords
    (records, c.setPuppet id p)

end Cast

end Drawbridge
