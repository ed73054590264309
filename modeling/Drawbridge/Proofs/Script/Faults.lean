import Drawbridge.Proofs.Script.Assignment
import Drawbridge.Script.Calls

/-!
# Faults that scripts see

A function of a proxy makes one call of the host, of the method that it is for (`call_proxy`).
Where the answer is a fault, the function throws a new error of the fault's class with its message
(`throws_error`), which the script may catch like any other.
-/

namespace Drawbridge

/-- The class of error that a fault is to a script. -/
def CallFault.Severity.errorClass : Severity → Script.ErrorClass
  | .reference => .reference
  | .type => .type
  | .plain => .error

namespace Script

/-- What the error of a fault says. -/
def faultText (fault : CallFault) : Utf16 :=
  match fault.severity with
  | .plain => .ofString fault.message
  | _ => Exec.clipped fault.message

/-- `m'` is `m` with a new error at `r`. -/
structure NewError (m m' : Machine) (r : Ref) (c : ErrorClass) (text : Utf16) : Prop where
  new : m.objects.size ≤ r.index
  isError : m'.isError (.object r) = true
  proto : (m'.object r).proto = some c.proto.ref
  message : (m'.object r).find? "message" = some (.hidden (.text text))
  rest : ∀ s : Ref, s.index < m.objects.size → m'.object s = m.object s

namespace Machine

theorem newError_new (m : Machine) (c : ErrorClass) (text : Utf16) :
    NewError m (m.newError 0 c text).2 (m.newError 0 c text).1 c text := by
  unfold newError
  refine ⟨Nat.le_refl _, ?_, ?_, ?_, fun s hs => object_alloc_of_lt m _ hs⟩
  · simp only [isError, object_alloc_self]
  · rw [object_alloc_self]
  · rw [object_alloc_self]
    have key : Key.index? "message" = none := by decide +kernel
    simp [Object.find?, Object.place?, key, List.findIdx?_cons]

end Machine

namespace Exec

/-- A function of a proxy makes one call of the host. -/
theorem callProxy_eq (target : CallTarget) (args : List Value) (call : Call) (m : Machine) :
    callProxy target args call m
      = .call target (args.map m.toBridge) m fun answer m => answered answer call m := rfl

/-- What calls a function of a proxy makes the call of the host that the function is for. -/
theorem call_proxy {i : Invocation} {r : Ref} {target : CallTarget} {m : Machine}
    (callee : i.callee = .object r) (nature : (m.object r).nature = .proxy target) (call : Call) :
    Exec.call i call m
      = .call target (i.args.map m.toBridge) m fun answer m => answered answer call m := by
  rw [← callProxy_eq]
  unfold Exec.call
  simp only [callee]
  show Exec.bind (Exec.read _) _ call m = _
  simp only [Exec.bind, Exec.read, Activity.bind, nature]

/-- A call of a function of a proxy is one call of the host. Where this gets the answer, on whatever
machine it finds then, the function throws a new error and does nothing else. -/
def Throws (answer : Answer) (c : ErrorClass) (text : Utf16) : Prop :=
  ∀ (i : Invocation) (r : Ref) (target : CallTarget) (m : Machine) (call : Call),
    i.callee = .object r → (m.object r).nature = .proxy target →
    ∃ resume, Exec.call i call m = .call target (i.args.map m.toBridge) m resume ∧
      ∀ m', ∃ e left, resume answer m' = .done (.error (.thrown (.object e))) left ∧
        NewError m' left e c text

theorem throwFault_eq (fault : CallFault) (call : Call) (m : Machine) :
    ∃ e left, throwFault fault call m = .done (.error (.thrown (.object e))) left ∧
      NewError m left e fault.severity.errorClass (faultText fault) := by
  refine ⟨_, _, ?_, m.newError_new fault.severity.errorClass (faultText fault)⟩
  unfold throwFault faultText
  cases fault.severity <;> rfl

theorem throws_error (fault : CallFault) :
    Throws (.error fault) fault.severity.errorClass (faultText fault) :=
  fun _ _ _ _ call callee nature =>
    ⟨_, call_proxy callee nature call, fun m' => throwFault_eq fault call m'⟩

end Exec

end Script

end Drawbridge
