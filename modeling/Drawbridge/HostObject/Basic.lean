import Drawbridge.Contract

/-!
# Host objects

A host object has a list of types and, for each of its methods, a body. Bodies may be anything that
a host can run. A method that is given twice has the body given last.
-/

namespace Drawbridge

/-- An object of the host: the types it says it is of, and its methods with their bodies. -/
structure HostObject (β : Type) where
  types : List String
  /-- the methods, no two of one name -/
  methods : List (String × β)

namespace HostObject

variable {β : Type}

/-! ## Building -/

/-- An object of one type, without methods. -/
def ofType (type : String) : HostObject β := ⟨[type], []⟩

/-- Gives the object one more type. -/
def also (o : HostObject β) (type : String) : HostObject β := { o with types := o.types ++ [type] }

/-- Gives a method its body, in place of the one it had. -/
def method (o : HostObject β) (name : String) (body : β) : HostObject β :=
  { o with methods := (name, body) :: o.methods.filter (·.1 != name) }

/-- An object of a type and further types, with methods as given in turn. -/
def build (type : String) (further : List String) (methods : List (String × β)) : HostObject β :=
  methods.foldl (fun o m => o.method m.1 m.2) (further.foldl also (ofType type))

/-! ## Asking -/

/-- Whether the object says it is of a type. -/
def implements (o : HostObject β) (type : String) : Bool := o.types.contains type

/-- The body of a method, if the object has the method. -/
def body? (o : HostObject β) (name : String) : Option β :=
  (o.methods.find? (·.1 == name)).map (·.2)

/-- Whether the object has a method. -/
def respondsTo (o : HostObject β) (name : String) : Bool := (o.body? name).isSome

/-- What the object says of itself when a contract is held against it. -/
def facets (o : HostObject β) : Facets := ⟨o.implements, o.respondsTo⟩

/-- What is said of a method that the object does not have. -/
def lackingMessage (name : String) : String := "no method named '" ++ name ++ "'"

/-- The types, and the names of the methods in order. -/
def describe (o : HostObject β) : String :=
  let names := (o.methods.map (·.1)).mergeSort fun a b => decide (a ≤ b)
  "FnObject \x7b implements: " ++ quotedList o.types ++ ", methods: " ++ quotedList names ++ " \x7d"

end HostObject

end Drawbridge
