import Drawbridge.Switchboard

/-!
# Outcomes of host calls

`Settled` lists what a call comes to by what the host did: a value of the kind that the method
declares, or a fault that names the method.  To a script it is a primitive of that kind.
-/

namespace Drawbridge

namespace Invocation

variable {i : Invocation} {outcome : Outcome} {answer : Except CallFault Datum}

/-- The method that is called, with its global. -/
def method (i : Invocation) : String := i.binding.name ++ "." ++ i.signature.name

/-- What a call comes to, by what the host did. -/
inductive Settled (i : Invocation) : Outcome → Except CallFault Datum → Prop
  | nothing {v} (declares : i.signature.result = .void) : Settled i (.returned v) (.ok .void)
  | value {v} (declares : i.signature.result ≠ .void) (kind : v.kind = i.signature.result) :
    Settled i (.returned v) (.ok v)
  | undeclared {v} (declares : i.signature.result ≠ .void) (kind : v.kind ≠ i.signature.result) :
    Settled i (.returned v) (.error (.host i.method
      ("returned " ++ v.kind.label ++ " but declares " ++ i.signature.result.label)))
  | failed (message : String) : Settled i (.failed message) (.error (.host i.method message))
  | panicked (s : String) :
    Settled i (.panicked (.text s)) (.error (.host i.method ("panicked: " ++ s)))
  | panickedOther : Settled i (.panicked .other) (.error (.host i.method "panicked"))

theorem Settled.kind {d : Datum} (settled : i.Settled outcome (.ok d)) :
    d.kind = i.signature.result := by
  cases settled with
  | nothing declares => exact declares.symm
  | value declares kind => exact kind

end Invocation

end Drawbridge
