import Drawbridge.Proofs.Process.Boards
import Drawbridge.Proofs.Process.Frames
import Drawbridge.Proofs.Script.Faults
import Drawbridge.Proofs.Switchboard.Gate
import Drawbridge.Proofs.Switchboard.Outcomes

/-!
# Calls from script to the host

A thread whose engine calls the host is followed until the engine goes on with an answer, while it
makes further calls from within and other threads do anything.  By `dispatch_invokes_once` the host
is called once if the gate admits the call, and otherwise not at all.
-/

namespace Drawbridge.Process

variable {E : Engine} {σ : Type} {host : Host σ} {p q : Process E σ} {t : ThreadId}
  {th : Thread E.Context σ}

/-! ## Invocations -/

/-- The call of the host that a thread begins in this step, out of `n` calls that it is in. -/
def Moment.invokes? (host : Host σ) (t : ThreadId) (n : Nat) (m : Moment E σ) : Option Invocation :=
  (m.process.step? host m.thread).bind fun q =>
    if m.process.nesting t = n ∧ q.nesting t = n + 1 then
      (q.threads[t.index]?.bind (·.calls.head?)).map (·.invocation)
    else none

/-- The calls of the host that a thread began out of `n` calls that it was in, the latest first. -/
def invocations (host : Host σ) (t : ThreadId) (n : Nat) (past : List (Moment E σ)) :
    List Invocation := past.filterMap (Moment.invokes? host t n)

theorem invocations_eq_nil {n : Nat} {past : List (Moment E σ)}
    (within : ∀ m ∈ past, n < m.process.nesting t) : invocations host t n past = [] := by
  refine List.filterMap_eq_nil_iff.2 fun m hm => Option.bind_eq_none_iff.2 fun q _ => if_neg ?_
  have := within m hm
  omega

/-! ## One call -/

/-- In the step from `b` thread `t`, which is `th`, takes a call that its engine makes to the gate.
In the moments after that it was in more calls than before. -/
structure Dispatch (host : Host σ) (t : ThreadId) (th : Thread E.Context σ) (w : Work E.Context σ)
    (target : CallTarget) (args : List ScriptValue) (c : E.Context)
    (resume : Answer → E.Context →
      Activity E.Context (Except BridgeFault w.underway.operation.Result))
    (b b' d : Process E σ) (within : List (Moment E σ)) : Prop where
  at_t : b.threads[t.index]? = some th
  stage : th.stage = .work w (.call target args c resume)
  step : b.step? host t = some b'
  run : Run host b' within d
  within : ∀ m ∈ within, th.calls.length < m.process.nesting t

section Dispatch

variable {w : Work E.Context σ} {target : CallTarget} {args : List ScriptValue} {c : E.Context}
  {resume : Answer → E.Context →
    Activity E.Context (Except BridgeFault w.underway.operation.Result)}
  {b b' d : Process E σ} {within : List (Moment E σ)} {i : Invocation} {fault : CallFault}

/-- A call that is refused is answered at once, and nothing else is done. -/
theorem Dispatch.refused (dispatch : Dispatch host t th w target args c resume b b' d within)
    (refuses : (b.boardOf w.underway.entry).Refuses target args fault) :
    invocations host t th.calls.length (within ++ [⟨b, t⟩]) = [] ∧
      d = b.setThread t { th with stage := .work w (resume (.error fault) c) } := by
  have gate := Switchboard.route_eq_error_iff.2 refuses
  have next := (Act.workRefused dispatch.stage gate).eq_of_step? dispatch.at_t dispatch.step
  have at_t : b'.threads[t.index]? = some { th with stage := .work w (resume (.error fault) c) } :=
    next ▸ getElem?_setThread_self dispatch.at_t
  have nesting : b'.nesting t = th.calls.length := by rw [nesting_eq at_t]
  have first : Moment.invokes? host t th.calls.length ⟨b, t⟩ = none := by
    unfold Moment.invokes?
    rw [dispatch.step, Option.bind_some, if_neg (by omega)]
  -- a moment after the step would be one in no more calls than before
  rcases dispatch.run.eq_nil_or_mem with ⟨rfl, rfl⟩ | ⟨m, hm, h⟩
  · exact ⟨List.filterMap_cons_none first, next⟩
  · have := dispatch.within m hm
    rw [h] at this
    omega

/-- A call that is admitted is carried out once, with the arguments as they were read, and the
engine goes on with what came of it. -/
theorem Dispatch.admitted (dispatch : Dispatch host t th w target args c resume b b' d within)
    (admits : (b.boardOf w.underway.entry).Admits target args i) :
    invocations host t th.calls.length (within ++ [⟨b, t⟩]) = [i] ∧
      b'.threads[t.index]? = some
        ⟨.host (host.invoke target.binding.object i.signature.name i.args),
          ⟨w, i, resume⟩ :: th.calls, w.underway.entry :: th.active⟩ ∧
      (d.nesting t = th.calls.length → ∃ outcome c', d.threads[t.index]?
        = some ⟨.work w (resume (i.reply outcome) c'), th.calls, th.active⟩) := by
  have gate := Switchboard.route_eq_ok_iff.2 admits
  have next := (Act.workCall dispatch.stage gate).eq_of_step? dispatch.at_t dispatch.step
  have at_t : b'.threads[t.index]? = some
      ⟨.host (host.invoke i.binding.object i.signature.name i.args),
        ⟨w, i, resume⟩ :: th.calls, w.underway.entry :: th.active⟩ :=
    next ▸ getElem?_setThread_self dispatch.at_t
  have first : Moment.invokes? host t th.calls.length ⟨b, t⟩ = some i := by
    have nesting : b.nesting t = th.calls.length := nesting_eq dispatch.at_t
    have nesting' : b'.nesting t = th.calls.length + 1 := by rw [nesting_eq at_t, List.length_cons]
    unfold Moment.invokes?
    rw [dispatch.step, Option.bind_some, if_pos ⟨nesting, nesting'⟩, at_t]
    rfl
  refine ⟨?_, admits.binding ▸ at_t, fun ended => ?_⟩
  · rw [invocations, List.filterMap_append, List.filterMap_cons_some first]
    exact congrArg (· ++ [i]) (invocations_eq_nil dispatch.within)
  · obtain ⟨th', at_d, inside | ⟨outcome, c', rfl⟩⟩ :=
      dispatch.run.inside at_t (Thread.inside_of_calls rfl rfl) dispatch.within
    · have := inside.length_lt
      rw [nesting_eq at_d] at ended
      omega
    · exact ⟨outcome, c', at_d⟩

/-- A call from script is carried out once at most, and once exactly if its global is published, its
method exists, it has as many arguments as the method takes and each can be read as its parameter.
It is then carried out on the object of its own binding, with what was read. Otherwise the check
that fails first decides what the script is thrown, and nothing else is done. -/
theorem dispatch_invokes_once
    (dispatch : Dispatch host t th w target args c resume b b' d within) :
    let board := b.boardOf w.underway.entry
    let made := invocations host t th.calls.length (within ++ [⟨b, t⟩])
    made.length ≤ 1 ∧
    (made.length = 1 ↔ ∃ i, board.Admits target args i) ∧
    (∀ i, board.Admits target args i →
      made = [i] ∧ i.args.map (·.kind) = i.signature.params ∧
      (∀ x ∈ i.args, x.kind ∈ [Kind.boolean, .int32, .double, .string]) ∧
      b'.threads[t.index]? = some
        ⟨.host (host.invoke target.binding.object i.signature.name i.args),
          ⟨w, i, resume⟩ :: th.calls, w.underway.entry :: th.active⟩ ∧
      (d.nesting t = th.calls.length → ∃ outcome c', d.threads[t.index]?
        = some ⟨.work w (resume (i.reply outcome) c'), th.calls, th.active⟩)) ∧
    ((∀ i, ¬ board.Admits target args i) → ∃ fault, board.Refuses target args fault ∧ made = [] ∧
      d = b.setThread t { th with stage := .work w (resume (.error fault) c) } ∧
      Script.Exec.Throws (.error fault)
        (if (board.get? target.binding.name).isSome ∧
          (target.binding.roster.method? target.method).isSome then .type else .reference)
        (Script.Exec.clipped fault.message)) := by
  intro board made
  rcases board.admits_or_refuses target args with ⟨i, admits, -⟩ | ⟨fault, refuses, never⟩
  · have once : made = [i] := (dispatch.admitted admits).1
    refine ⟨by rw [once]; exact Nat.le_refl 1, iff_of_true (by rw [once]; rfl) ⟨i, admits⟩,
      fun j admits => ?_, fun never => absurd admits (never i)⟩
    obtain ⟨made, begun, ended⟩ := dispatch.admitted admits
    exact ⟨made, admits.kinds.1, admits.kinds.2, begun, ended⟩
  · obtain ⟨nothing, rest⟩ : made = [] ∧ d = _ := dispatch.refused refuses
    refine ⟨by rw [nothing]; exact Nat.zero_le 1, iff_of_false (by rw [nothing]; nofun) ?_,
      fun i admits => absurd admits (never i), fun _ => ⟨fault, refuses, nothing, rest, ?_⟩⟩
    · rintro ⟨i, admits⟩
      exact never i admits
    · have throws := Script.Exec.throws_error fault
      unfold Script.faultText at throws
      rw [refuses.severity] at throws
      split_ifs at throws ⊢ <;> exact throws

end Dispatch

/-- What the script of `visit` calls. -/
def door : Binding := ⟨1, "door", ⟨"Door", [⟨"shut", [], .void⟩]⟩, ⟨0⟩⟩

/-- A script calls a method that closes its interpreter: the method is called once. -/
theorem dispatch_invokes_once_reentrant :
    ∃ (i : Invocation) (b b' d : Process .relay Unit) (within : List (Moment .relay Unit)),
      visit.follow closer (List.replicate 16 ⟨0⟩) = some b ∧ Run closer b' within d ∧
      d.nesting ⟨0⟩ = 0 ∧ invocations closer ⟨0⟩ 0 (within ++ [⟨b, ⟨0⟩⟩]) = [i] := by
  obtain ⟨b, b', d, th, w, c, resume, reached, at_t, stage, step, run, within, published, ended,
      calls⟩ :
      ∃ (b b' d : Process .relay Unit) (th : Thread Engine.relay.Context Unit)
        (w : Work Engine.relay.Context Unit) (c : Engine.relay.Context)
        (resume : Answer → Engine.relay.Context → Activity Engine.relay.Context
          (Except BridgeFault w.underway.operation.Result)),
        visit.follow closer (List.replicate 16 ⟨0⟩) = some b ∧ b.threads[0]? = some th ∧
        th.stage = .work w (.call ⟨door, 0⟩ [] c resume) ∧ b.step? closer ⟨0⟩ = some b' ∧
        b'.follow closer (List.replicate 6 ⟨0⟩) = some d ∧
        (∀ m ∈ b'.moments closer (List.replicate 6 ⟨0⟩), th.calls.length < m.process.nesting ⟨0⟩) ∧
        ((b.boardOf w.underway.entry).get? "door").isSome ∧ d.nesting ⟨0⟩ = 0 ∧
        th.calls.length = 0 :=
    ⟨_, _, _, _, _, _, _, rfl, rfl, rfl, rfl, rfl, by decide, rfl, rfl, rfl⟩
  have key := dispatch_invokes_once ⟨at_t, stage, step, .of_follow run, within⟩
  have admits : (b.boardOf w.underway.entry).Admits ⟨door, 0⟩ [] ⟨door, ⟨"shut", [], .void⟩, []⟩ :=
    ⟨published, rfl, rfl, rfl, rfl⟩
  exact ⟨_, b, b', d, _, reached, .of_follow run, ended, calls ▸ (key.2.2.1 _ admits).1⟩

/-! ## What comes back -/

/-- An engine with an operation inside is not released. -/
theorem Run.releases_of_inside {memory : σ} {programs : List (Program σ MethodResult)}
    {past : List (Moment E σ)} (run : Run host (start E memory programs) past p)
    (at_t : p.threads[t.index]? = some th) {e : EntryId} (inside : 0 < th.inside e) :
    ∃ x, p.entry? e = some x ∧ x.releases = 0 := by
  have kept := run.kept e
  have total := le_total (Thread.inside e) at_t
  obtain ⟨x, hx⟩ :=
    kept.exists_entry at_t (Nat.lt_of_lt_of_le inside (Thread.inside_le_holds _ th))
  have key := kept.entry hx
  exact ⟨x, hx, key.busy (by rw [key.depth]; omega)⟩

section Contained

variable {contract : Contract} {facets : Facets} {b : Binding}

end Contained

end Drawbridge.Process
