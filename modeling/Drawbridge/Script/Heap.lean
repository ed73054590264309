import Drawbridge.Script.Value

/-!
# Objects, scopes and errors

What scripts do to the machine without running any code: looking properties up along the chain of
prototypes, adding and dropping them, opening scopes, and making errors that know where they were
made.
-/

namespace Drawbridge.Script

/-! ## Keys -/

/-- The number that a text writes without sign or leading zeros, below `2 ^ 32 - 1`. -/
def arrayIndex? (s : Utf16) : Option Nat :=
  let digits := s.array.all fun v => 48 ≤ v.toNat && v.toNat ≤ 57
  if !digits || s.isEmpty || 10 < s.length || (1 < s.length && s.array[0]? = some 48) then none
  else
    let n := s.array.foldl (fun n v => 10 * n + (v.toNat - 48)) 0
    if n < 4294967295 then some n else none

/-- The index of an element that a key is. -/
def Key.index? : Key → Option Nat
  | .text s => arrayIndex? s
  | .symbol _ => none

/-- The key of an element. -/
def Key.ofIndex (n : Nat) : Key := .ofString (toString n)

/-- The words of a key. -/
def Machine.keyText (m : Machine) : Key → Utf16
  | .text s => s
  | .symbol s => ((m.symbols[s.index]?).getD none).getD (.ofString "")

/-- The longest name a message shows, in bytes. -/
def shownBytes : Nat := 63

/-- The head of a name, as messages show it. -/
def shown (x : Utf16) : Utf16 := x.head shownBytes

/-- A key as messages show it. -/
def Machine.shownKey (m : Machine) (k : Key) : Utf16 := shown (m.keyText k)

/-- A key as functions are named after it. -/
def Machine.functionName (m : Machine) : Key → Utf16
  | .text s => s
  | .symbol s =>
    match (m.symbols[s.index]?).getD none with
    | some words => "[" ++ words ++ "]"
    | none => ""

/-! ## Properties of one object -/

namespace Object

/-- The length of a list, and whether it may change. It is the first of its properties. -/
def arrayLength? (o : Object) : Option (Nat × Bool) :=
  let first : Option (Key × Property) := o.properties[0]?
  match o.nature, first with
  | .array, some (_, ⟨.data (.int n) writable, _, _⟩) => some (n.toInt.toNat, writable)
  | .array, some (_, ⟨.data (.float x) writable, _, _⟩) => some ((x.toInt?.getD 0).toNat, writable)
  | _, _ => none

/-- Where a property is. In a list the elements mostly come in order after its length, and none
lies beyond it. -/
def place? (o : Object) (k : Key) : Option Nat :=
  match k.index? with
  | some n =>
    if (o.properties[n + 1]?).any fun q => q.1 == k then some (n + 1)
    else if (o.arrayLength?).any fun (length, _) => length ≤ n then none
    else o.properties.findIdx? fun q => q.1 == k
  | none => o.properties.findIdx? fun q => q.1 == k

/-- The property under a key, of those that the object stores. -/
def find? (o : Object) (k : Key) : Option Property :=
  (o.place? k).bind fun i => (o.properties[i]?).map (·.2)

/-- Sets a property, in its place if there is one of that key. -/
def insert (o : Object) (k : Key) (p : Property) : Object :=
  match o.place? k with
  | some i => { o with properties := o.properties.set! i (k, p) }
  | none => { o with properties := o.properties.push (k, p) }

/-- Takes a property away. -/
def erase (o : Object) (k : Key) : Object :=
  { o with properties := o.properties.filter fun p => p.1 != k }

/-- The text of a wrapped text. -/
def wrappedText? (o : Object) : Option Utf16 :=
  match o.nature with
  | .wrapper (.text s) => some s
  | _ => none

/-- A property of a text: its length, or one of its units. -/
def textProperty? (s : Utf16) (k : Key) : Option Property :=
  if k = .ofString "length" then some (.fixed (.int (Int32.ofNat s.length)))
  else
    match k.index? with
    | some i => (s.array[i]?).map fun u => ⟨.data (.text ⟨#[u]⟩) false, true, false⟩
    | none => none

/-- A property of the object itself. -/
def own? (o : Object) (k : Key) : Option Property :=
  match o.wrappedText? with
  | some s => (textProperty? s k).orElse fun _ => o.find? k
  | none => o.find? k

/-- The keys in order: indices by size, then the others as they were added. -/
def keys (o : Object) : List Key :=
  let virtual := match o.wrappedText? with
    | some s => (List.range s.length).map Key.ofIndex
    | none => []
  let all := o.properties.toList.map (·.1)
  let indices := (all.filterMap Key.index?).mergeSort fun a b => decide (a ≤ b)
  let others := all.filter fun k => k.index?.isNone
  virtual ++ indices.map Key.ofIndex ++ others

/-- Whether a property is there and is listed. -/
def lists (o : Object) (k : Key) : Bool :=
  match o.own? k with
  | some p => p.enumerable
  | none => false

/-- The keys that are listed. -/
def listedKeys (o : Object) : List Utf16 :=
  o.keys.filterMap fun
    | .text s => if o.lists (.text s) then some s else none
    | .symbol _ => none

/-- The keys that are listed, and then the symbols of which that is true. -/
def copiedKeys (o : Object) : List Key :=
  o.listedKeys.map Key.text ++ o.keys.filter fun
    | .text _ => false
    | .symbol s => o.lists (.symbol s)

end Object

/-! ## Objects of the machine -/

namespace Machine

/-- The object at a reference. -/
def object (m : Machine) (r : Ref) : Object := m.objects.getD r.index default

/-- Puts an object at a reference, in place of the one there. -/
def setObject (m : Machine) (r : Ref) (o : Object) : Machine :=
  { m with objects := m.objects.setIfInBounds r.index o }

/-- Changes an object. -/
def modifyObject (m : Machine) (r : Ref) (f : Object → Object) : Machine :=
  { m with objects := m.objects.modify r.index f }

/-- Puts a new object on the machine. -/
def alloc (m : Machine) (o : Object) : Ref × Machine :=
  (⟨m.objects.size⟩, { m with objects := m.objects.push o })

/-- The object along the chain of prototypes that has a property, and the property. No chain is
longer than there are objects. -/
def lookupFrom (m : Machine) (k : Key) : Nat → Ref → Option (Ref × Property)
  | 0, _ => none
  | n + 1, r =>
    let o := m.object r
    match o.own? k with
    | some p => some (r, p)
    | none =>
      match o.proto with
      | some parent => lookupFrom m k n parent
      | none => none

/-- The property that an object has or inherits, with the object that has it. -/
def lookup (m : Machine) (r : Ref) (k : Key) : Option (Ref × Property) :=
  m.lookupFrom k (m.objects.size + 1) r

/-- Whether an object is another one or among what that one inherits from. -/
def inherits (m : Machine) (target : Ref) : Nat → Ref → Bool
  | 0, _ => false
  | n + 1, r =>
    r == target ||
      match (m.object r).proto with
      | some parent => inherits m target n parent
      | none => false

/-- Whether a value is a function. -/
def isCallable (m : Machine) : Value → Bool
  | .object r =>
    match (m.object r).nature with
    | .closure _ | .builtIn _ | .proxy _ => true
    | _ => false
  | _ => false

/-- Whether `new` accepts a function. -/
def isConstructor (m : Machine) : Value → Bool
  | .object r =>
    match (m.object r).nature with
    | .closure c => c.code.form = .ordinary || c.code.form = .classBody
    | .builtIn f =>
      match f with
      | .functionNew | .objectNew | .errorNew _ | .arrayNew | .textNew | .numberNew | .boolNew
      | .symbolNew | .bigIntNew | .dateNew | .promiseNew => true
      | _ => false
    | _ => false
  | _ => false

/-! ## Scopes -/

/-- The scope at a reference. -/
def scope (m : Machine) (r : ScopeRef) : Scope := m.scopes.getD r.index default

/-- Puts a new scope on the machine. -/
def openScope (m : Machine) (s : Scope) : ScopeRef × Machine :=
  (⟨m.scopes.size⟩, { m with scopes := m.scopes.push s })

/-- The scope that has a variable, and its place there. No chain is longer than there are
scopes. -/
def variableFrom (m : Machine) (x : Utf16) : Nat → Option ScopeRef → Option (ScopeRef × Nat)
  | 0, _ => none
  | _, none => none
  | n + 1, some r =>
    let s := m.scope r
    match s.vars.findIdx? fun v => v.name == x with
    | some i => some (r, i)
    | none => variableFrom m x n s.parent

/-- The variable that a name means, unless it is a property of the global object. -/
def variableAt? (m : Machine) (scope : Option ScopeRef) (x : Utf16) : Option (ScopeRef × Nat) :=
  (m.variableFrom x (m.scopes.size + 1) scope).orElse fun _ =>
    m.variableFrom x 1 (some globalScope)

/-- The variable at a place in a scope. -/
def variableAt (m : Machine) (r : ScopeRef) (i : Nat) : Option Variable :=
  (m.scope r).vars[i]?

/-- The variable that a name means, with its place. -/
def variableNamed? (m : Machine) (scope : Option ScopeRef) (x : Utf16) :
    Option (ScopeRef × Nat × Variable) :=
  (m.variableAt? scope x).bind fun (r, i) => (m.variableAt r i).map fun v => (r, i, v)

/-- Gives the variable at a place in a scope a value. -/
def setVariable (m : Machine) (r : ScopeRef) (i : Nat) (v : Value) : Machine :=
  { m with scopes := m.scopes.modify r.index fun s =>
      { s with vars := s.vars.modify i fun x => { x with value := some v } } }

/-- Adds variables to a scope. -/
def declare (m : Machine) (r : ScopeRef) (vars : List Variable) : Machine :=
  { m with scopes := m.scopes.modify r.index fun s =>
      { s with vars := s.vars ++ vars.toArray } }

/-! ## Running functions -/

/-- The name that a running function shows: that of its property, if that is a text. -/
def runName (m : Machine) (run : Run) : String :=
  match run.function with
  | none => "<eval>"
  | some r =>
    let name := match (m.object r).find? "name" with
      | some ⟨.data (.text s) _, _, _⟩ => s.lossy
      | _ => ""
    if name.isEmpty then "<anonymous>" else name

/-- The places that are running but for the innermost `skipped` ones, innermost first, ten at
most. -/
def backtrace (m : Machine) (skipped : Nat) : List Frame :=
  ((m.runs.drop skipped).take 10).map fun run =>
    { name := some (m.runName run)
      place := run.file.map fun file => ⟨file, run.mark.line, run.mark.column⟩ }

/-- The running code has come to a place. -/
def setMark (m : Machine) (mark : Mark) : Machine :=
  match m.runs with
  | run :: rest => { m with runs := { run with mark } :: rest }
  | [] => m

/-- The running code has come to a value. -/
def setCompletion (m : Machine) (v : Value) : Machine :=
  match m.runs with
  | run :: rest => { m with runs := { run with completion := v } :: rest }
  | [] => m

/-- The value that the running code has come to last. -/
def completion (m : Machine) : Value := ((m.runs.head?).map (·.completion)).getD .undefined

/-- The running code goes on in another scope. -/
def setRunScope (m : Machine) (scope : Option ScopeRef) : Machine :=
  match m.runs with
  | run :: rest => { m with runs := { run with scope } :: rest }
  | [] => m

/-! ## Errors -/

/-- The property of an error that shows where it was made. -/
def stackProperty (frames : List Frame) : Property :=
  .hidden (.text (.ofString (Backtrace.render frames)))

/-- An error with a message, made here; the innermost `skipped` places do not count. -/
def newError (m : Machine) (skipped : Nat) (c : ErrorClass) (message : Utf16) : Ref × Machine :=
  m.alloc
    { proto := some c.proto.ref
      extensible := true
      properties := #[("message", .hidden (.text message)),
        ("stack", stackProperty (m.backtrace skipped))]
      nature := .error }

/-- Whether a value is an error, as those are that are made with a backtrace. -/
def isError (m : Machine) (v : Value) : Bool :=
  match v with
  | .object r =>
    match (m.object r).nature with
    | .error => true
    | _ => false
  | _ => false

/-- An error that has lost its backtrace gets the one of this place. -/
def restack (m : Machine) (v : Value) : Machine :=
  match v with
  | .object r =>
    let o := m.object r
    match o.nature with
    | .error =>
      if (o.find? "stack").isSome || !o.extensible then m
      else m.setObject r (o.insert "stack" (stackProperty (m.backtrace 0)))
    | _ => m
  | _ => m

end Machine

namespace Exec

variable {α : Type}

/-- Throws an error made here. -/
def raise (c : ErrorClass) (message : Utf16) : Exec α := do
  let r ← update fun m => m.newError 0 c message
  throwValue (.object r)

/-- Throws an error about a type. -/
def throwType (message : Utf16) : Exec α := raise .type message

/-- Moves to a place of the running code. -/
def moveTo (mark : Mark) : Exec Unit := modify (·.setMark mark)

/-- A text, if it may be as long as that. -/
def textValue (s : Utf16) : Exec Value := do
  match ← read (·.textLimit) with
  | some limit =>
    if limit < s.storedBytes then raise .internal "out of memory" else return .text s
  | none => return .text s

/-- The units of the longest text there can be. -/
def longestText : Nat := 1073741823

/-- Refuses a text of so many units before it is made. -/
def checkLength (units : Nat) : Exec Unit := do
  if longestText < units then raise .range "invalid string length"
  else
    match ← read (·.textLimit) with
    | some limit => if limit < units then raise .internal "out of memory" else return
    | none => return

/-- Puts a new object on the machine, as a value. -/
def newObject (o : Object) : Exec Value := do return .object (← update (·.alloc o))

/-- An object of its own, without properties. -/
def newPlain : Exec Value :=
  newObject ⟨some Intrinsic.objectProto.ref, true, #[], .plain⟩

/-- A list with some of its elements. -/
def newList (length : Value) (entries : List (Key × Property)) : Exec Value :=
  newObject
    { proto := some Intrinsic.arrayProto.ref
      extensible := true
      properties := #[(Key.ofString "length", ⟨.data length true, false, false⟩)] ++ entries.toArray
      nature := .array }

/-- A list of values; a hole has no property. -/
def newArray (items : List (Option Value)) : Exec Value :=
  newList (.int (Int32.ofNat items.length)) (items.zipIdx.filterMap fun (v, i) =>
    v.map fun v => (Key.ofIndex i, Property.plain v))

end Exec

end Drawbridge.Script
