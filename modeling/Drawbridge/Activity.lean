import Drawbridge.Switchboard

/-!
# Activities of an engine

An engine that works on its state, the context, comes to a result or to a call of the host. It then
waits: between the call and the answer others may work on the same context, so the answer comes
with the context as they left it.
-/

namespace Drawbridge

/-- What the host answers to a call from script. -/
abbrev Answer := Except CallFault ScriptValue

/-- What an engine does on a context, to its result or to a call of the host. -/
inductive Activity (C α : Type) where
  | done (result : α) (context : C)
  | call (target : CallTarget) (args : List ScriptValue) (context : C)
      (resume : Answer → C → Activity C α)

namespace Activity

variable {C α β : Type}

/-- Goes on with `f` where an activity comes to its result. -/
def bind : Activity C α → (α → C → Activity C β) → Activity C β
  | done a c, f => f a c
  | call target args c resume, f => call target args c fun answer c => (resume answer c).bind f

/-- An activity with `f` of its result. -/
def map (f : α → β) (x : Activity C α) : Activity C β := x.bind fun a c => done (f a) c

@[simp] theorem done_bind (a : α) (c : C) (f : α → C → Activity C β) :
    (done a c).bind f = f a c := rfl

theorem bind_assoc {γ : Type} (x : Activity C α) (f : α → C → Activity C β)
    (g : β → C → Activity C γ) :
    (x.bind f).bind g = x.bind fun a c => (f a c).bind g := by
  induction x with
  | done a c => rfl
  | call target args c resume ih =>
    show call target args c (fun answer c => ((resume answer c).bind f).bind g)
      = call target args c (fun answer c => (resume answer c).bind fun a c => (f a c).bind g)
    simp [ih]

/-- Runs an activity with a host that answers at once. -/
def run {σ : Type} (host : CallTarget → List ScriptValue → σ → Answer × σ) :
    Activity C α → σ → α × C × σ
  | done a c, s => (a, c, s)
  | call target args c resume, s =>
    let (answer, s) := host target args s
    (resume answer c).run host s

end Activity

end Drawbridge
