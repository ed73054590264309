import Drawbridge.Script.Heap

/-!
# What scripts can reach

Objects and variables that are reachable from the global object, the other intrinsic ones and the
functions that are running. A function keeps no more of its surroundings than the variables whose
names it uses.
-/

namespace Drawbridge.Script

/-- A thing on a machine that refers to others. -/
inductive Node where
  | object (r : Ref)
  | cell (s : ScopeRef) (i : Nat)
  deriving DecidableEq

namespace Node

/-- The object that a value refers to. -/
def ofValue : Value → List Node
  | .object r => [object r]
  | _ => []

/-- The objects that a property refers to. -/
def ofContent : Content → List Node
  | .data v _ => ofValue v
  | .accessor g s => ofValue g ++ ofValue s

end Node

/-- Which objects and variables have been found. -/
structure Marks where
  objects : Array Bool
  cells : Array (Array Bool)

namespace Marks

/-- Whether a thing has been found. What is not on the machine counts as found. -/
def has (marks : Marks) : Node → Bool
  | .object r => marks.objects.getD r.index true
  | .cell s i => (marks.cells.getD s.index #[]).getD i true

/-- Counts a thing as found. -/
def add (marks : Marks) : Node → Marks
  | .object r => { marks with objects := marks.objects.setIfInBounds r.index true }
  | .cell s i =>
    { marks with cells := marks.cells.modify s.index (·.setIfInBounds i true) }

end Marks

namespace Machine

/-- What an object is made of beside its properties. -/
def partsOf (m : Machine) : Nature → List Node
  | .closure c =>
    (c.code.uses.names.filterMap fun x =>
      (m.variableFrom x (m.scopes.size + 1) c.scope).map fun (s, i) => .cell s i)
      ++ if c.code.form = .arrow && c.code.uses.this then Node.ofValue c.boundThis else []
  | .wrapper v => Node.ofValue v
  | .walk (.elements r _) => [.object r]
  | _ => []

/-- What a thing refers to. -/
def children (m : Machine) : Node → List Node
  | .object r =>
    match m.objects[r.index]? with
    | some o =>
      (o.proto.map Node.object).toList ++ m.partsOf o.nature
        ++ o.properties.toList.flatMap fun (_, p) => Node.ofContent p.content
    | none => []
  | .cell s i =>
    match m.variableAt s i with
    | some ⟨_, some v, _⟩ => Node.ofValue v
    | _ => []

/-- The variables of a scope. -/
def variablesIn (m : Machine) (s : ScopeRef) : List Node :=
  (List.range (m.scope s).vars.size).map fun i => .cell s i

/-- The variables of the scopes from one up to another, which does not count. No chain is longer
than there are scopes. -/
def variablesUpTo (m : Machine) (outer : Option ScopeRef) : Nat → Option ScopeRef → List Node
  | 0, _ => []
  | _, none => []
  | n + 1, some s =>
    if some s = outer then []
    else m.variablesIn s ++ m.variablesUpTo outer n (m.scope s).parent

/-- What a running function refers to. -/
def runNodes (m : Machine) (run : Run) : List Node :=
  (run.function.map Node.object).toList ++ Node.ofValue run.completion
    ++ m.variablesUpTo run.outer (m.scopes.size + 1) run.scope

/-- Where every search begins. -/
def roots (m : Machine) : List Node :=
  Intrinsic.all.map (fun i => .object i.ref) ++ m.variablesIn globalScope
    ++ m.runs.flatMap m.runNodes

/-- Searches on from the nodes still to be looked at; `n` bounds their number. -/
def search (m : Machine) : Nat → List Node → Marks → Marks
  | 0, _, marks => marks
  | _, [], marks => marks
  | n + 1, x :: rest, marks =>
    if marks.has x then m.search n rest marks
    else m.search n (m.children x ++ rest) (marks.add x)

/-- The number of references on a machine. -/
def references (m : Machine) : Nat :=
  let ofObjects := (List.range m.objects.size).flatMap fun i => m.children (.object ⟨i⟩)
  let ofScopes := (List.range m.scopes.size).flatMap fun i =>
    (m.variablesIn ⟨i⟩).flatMap m.children
  ofObjects.length + ofScopes.length

/-- What scripts can reach. -/
def marks (m : Machine) : Marks :=
  m.search (m.roots.length + m.references + 1) m.roots
    ⟨Array.replicate m.objects.size false,
      m.scopes.map fun s => Array.replicate s.vars.size false⟩

/-- The bindings of the proxy functions that scripts can reach. -/
def proxies (m : Machine) : List Binding :=
  let marks := m.marks
  (m.objects.toList.zip marks.objects.toList).filterMap fun (o, reached) =>
    match o.nature with
    | .proxy target => if reached then some target.binding else none
    | _ => none

/-- Empties the objects and variables out of reach, unless an activity may still hold some. -/
def collect (m : Machine) : Machine :=
  if m.working ≠ 0 then m
  else
    let marks := m.marks
    let kept (x : Variable) (reached : Bool) : Variable :=
      if reached then x else { x with value := none }
    let objects := m.objects.zipWith (fun o reached => if reached then o else default) marks.objects
    let scopes := m.scopes.zipWith
      (fun s reached => { s with vars := s.vars.zipWith kept reached }) marks.cells
    { m with objects, scopes }

end Machine

end Drawbridge.Script
