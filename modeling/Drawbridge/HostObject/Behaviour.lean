import Drawbridge.Program

/-!
# Behaviours

Small method bodies, told in words, that look at nothing but their arguments and at how often they
were called.
-/

namespace Drawbridge

/-- What a method body does. -/
inductive Behaviour where
  | value (d : Datum)
  /-- the argument at a place, void if there is none -/
  | arg (index : Nat)
  /-- the sum of all arguments modulo `2 ^ 32`; what is no integer counts 0 -/
  | add
  /-- half of the first argument, a double; anything else counts 0 -/
  | half
  /-- the negation of the first argument; what is no boolean counts false -/
  | not
  /-- all arguments in a row, with a question mark for what is no text -/
  | concat
  /-- how often it was called so far -/
  | count
  | fail (message : String)
  | panic (payload : Panic)
  deriving DecidableEq, Repr

namespace Behaviour

/-- The first argument, if `read` can make something of it. -/
def first {α : Type} (read : Datum → Option α) (default : α) (args : List Datum) : α :=
  (args.head?.bind read).getD default

/-- What the behaviour does at the call that is the `n`-th one. -/
def outcome (n : Nat) (args : List Datum) : Behaviour → Outcome
  | value d => .returned d
  | arg index => .returned (args.getD index .void)
  | add => .returned (.int (args.foldl (fun n d => n + d.int?.getD 0) 0))
  | half => .returned (.double (Double.half (first Datum.double? .zero args)))
  | not => .returned (.bool !(first Datum.bool? false args))
  | concat => .returned (.text (String.join (args.map fun d => d.text?.getD "?")))
  | count => .returned (.int (Int32.ofNat n))
  | fail message => .failed message
  | panic payload => .panicked payload

end Behaviour

namespace Outcome

/-- The end of a method body. -/
def toProgram {σ : Type} : Outcome → Program σ MethodResult
  | returned value => .done (.ok value)
  | failed message => .done (.error message)
  | panicked payload => .panic payload

end Outcome

end Drawbridge
