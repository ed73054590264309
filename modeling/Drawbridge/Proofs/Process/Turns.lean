import Drawbridge.Proofs.Process.Closing
import Drawbridge.Proofs.Process.Replay

/-!
# Turns of threads

What a thread does on an interpreter, read off its stage and its calls: the turn that it has
(`Thread.holder`), what it does next (`Thread.mark?`) and what becomes of the interpreter before
that (`Thread.ahead`).  A step of the thread that has the lock goes through some of what lies ahead
or on by its mark (`Act.advances`); the lock is taken as a turn begins and given back as it ends.
-/

namespace Drawbridge

variable {C : Type} {E : Engine} {σ : Type}

/-! ## What a thread does on an entry -/

/-- The operation of a stage that has the lock of `e`. -/
def Stage.use? (e : EntryId) : Stage C σ → Option (Underway σ)
  | .check u | .enter u _ | .finish u _ | .unlock u _ => if u.entry = e then some u else none
  | .work w _ | .leave w _ | .publish w _ =>
    if w.underway.entry = e then some w.underway else none
  | _ => none

/-- The next step of a thread at this stage works on the interpreter of `e`. -/
def Stage.on (e : EntryId) : Stage C σ → Bool
  | .check u | .enter u _ | .finish u _ | .unlock u _ => u.entry = e
  | .work w _ | .leave w _ | .publish w _ => w.underway.entry = e
  | .destroy e' _ => e' = e
  | _ => false

/-- What waits for the answer to a call. -/
def HostCall.suspended (call : HostCall C σ) : Suspended C :=
  ⟨call.work.underway.operation, call.work.pending, call.invocation, call.resume⟩

/-- What becomes of an interpreter before the thread, which is at this stage, does anything more on
it than it has begun. -/
def Stage.ahead (E : Engine) (e : EntryId) (b : Bench E.Context) :
    Stage E.Context σ → Bench E.Context
  | .enter u pending =>
    if u.entry = e then
      match b.desk.engine with
      | some c => b.advance u.operation pending (Process.begin E u.operation pending c)
      | none => b
    else b
  | .work w a => if w.underway.entry = e then b.advance w.underway.operation w.pending a else b
  | .leave w r | .publish w r =>
    if w.underway.entry = e then b.conclude w.underway.operation w.pending r else b
  | .finish u r => if u.entry = e then b.settle.give u.operation r else b
  | .unlock u r => if u.entry = e then b.give u.operation r else b
  | _ => b

namespace Thread

/-- The operations of a thread that have the lock of `e`, innermost first. -/
def uses (e : EntryId) (th : Thread C σ) : List (Underway σ) :=
  (th.stage.use? e).toList ++ (th.calls.map (·.work.underway)).filter (·.entry = e)

/-- What a thread that has the lock of `e` took it for first. -/
def holder (t : ThreadId) (e : EntryId) (th : Thread C σ) : Holder σ :=
  match (th.uses e).getLast? with
  | some u => .use t u
  | none => .close t

/-- The operations of a thread on `e` that wait for the host, innermost first. -/
def frames (e : EntryId) (th : Thread C σ) : List (Suspended C) :=
  (th.calls.filter (·.work.underway.entry = e)).map HostCall.suspended

/-- What becomes of an interpreter, as the thread finds it, before the thread does anything more on
it than it has begun. -/
def ahead (e : EntryId) (d : Desk E.Context) (returned : List Returned)
    (th : Thread E.Context σ) : Bench E.Context :=
  th.stage.ahead E e ⟨d, th.frames e, returned⟩

/-- What the next step of a thread begins or answers on `e`. -/
def mark? (e : EntryId) (th : Thread C σ) : Option Mark :=
  match th.stage with
  | .check u => if u.entry = e then some (.use u.operation) else none
  | .host body =>
    match body.result?, th.calls with
    | some r, call :: _ =>
      if call.work.underway.entry = e then some (.answer (Process.outcomeOf r)) else none
    | _, _ => none
  | .destroy e' _ => if e' = e then some .close else none
  | _ => none

/-- What the next step of a thread returns of an operation on `e`. -/
def returns? (e : EntryId) (th : Thread C σ) : Option Returned :=
  match th.stage with
  | .unlock u r => if u.entry = e then some ⟨u.operation, r⟩ else none
  | _ => none

/-- What the thread takes the lock of `e` for in its next step, if it does not have it. -/
def begins? (t : ThreadId) (e : EntryId) (th : Thread C σ) : Option (Holder σ) :=
  match th.stage with
  | .lock u => if u.entry = e ∧ th.waiting e = 0 then some (.use t u) else none
  | .lockToClose e' _ => if e' = e ∧ th.waiting e = 0 then some (.close t) else none
  | _ => none

/-- What ends as the thread gives the lock of `e` back for good in its next step. -/
def ends? (t : ThreadId) (e : EntryId) (th : Thread C σ) : Option (Turn σ) :=
  match th.stage with
  | .unlock u r => if u.entry = e ∧ th.waiting e = 0 then some (.use t u r) else none
  | .unlockClosed e' _ => if e' = e ∧ th.waiting e = 0 then some (.close t) else none
  | _ => none

/-- The thread has taken the lock of `e` and done nothing with it. -/
def New (e : EntryId) (th : Thread C σ) : Prop :=
  th.waiting e = 0 ∧ ((∃ u, th.stage = .check u ∧ u.entry = e) ∨ ∃ back, th.stage = .destroy e back)

end Thread

/-- A thread has the lock that did not have it before: it has taken it in this step. -/
theorem View.Change.grabbed {t : ThreadId} {v v' : View C} (change : View.Change t v v')
    (outside : v.holds = 0) (inside : 0 < v'.holds) :
    ∃ x, v.entry = some x ∧ x.Open t ∧ v'.entry = some (x.grab t) := by
  cases change with
  | grab entry free eq =>
    subst eq
    exact ⟨_, entry, free, rfl⟩
  | letGo holds => omega
  | keep eq | create _ eq | run _ eq | gate eq | publish _ eq | engage _ _ _ _ eq
  | dismiss _ _ _ eq | dismissLast _ _ _ eq | vacate _ eq | defer _ _ _ eq
  | destroy _ _ _ _ eq =>
    subst eq
    exact absurd inside (Nat.not_lt.2 (Nat.le_of_eq outside))

/-- A thread does not have the lock that had it before: it has given it back in this step. -/
theorem View.Change.given {t : ThreadId} {v v' : View C} (change : View.Change t v v')
    (inside : 0 < v.holds) (outside : v'.holds = 0) : v'.entry = v.entry.map Entry.letGo := by
  cases change with
  | letGo _ eq => exact congrArg View.entry eq
  | grab _ _ eq =>
    subst eq
    cases outside
  | keep eq | create _ eq | run _ eq | gate eq | publish _ eq | engage _ _ _ _ eq
  | dismiss _ _ _ eq | dismissLast _ _ _ eq | vacate _ eq | defer _ _ _ eq
  | destroy _ _ _ _ eq =>
    subst eq
    exact absurd outside (Nat.ne_of_gt inside)

/-! ## What is done to a desk -/

section Desk

variable {x : Entry C}

theorem Entry.desk_engage (x : Entry C) (op : Operation) :
    (x.engage op).desk = (x.desk.prepare op).2 := by
  cases op <;> rfl

theorem Entry.pending_eq (x : Entry C) (op : Operation) :
    x.pending op = (x.desk.prepare op).1 := by
  cases op <;> rfl

theorem Desk.engine_prepare (d : Desk C) (op : Operation) : (d.prepare op).2.engine = d.engine := by
  cases op <;> rfl

theorem Entry.desk_dismiss (more : x.last = false) : x.dismiss.desk = x.desk := by
  simp [desk, dismiss, more]

theorem Entry.desk_dismissLast (last : x.last = true) :
    x.dismiss.dropEngine.desk = x.desk.release := by
  simp [desk, dismiss, dropEngine, Desk.release, last]

theorem Entry.desk_dropEngine (unclosed : x.closing = false) :
    x.dropEngine.desk = x.desk.release := by
  simp [desk, dropEngine, Desk.release, unclosed]

theorem Desk.publish_eq_self {α : Type} {pending : Option Binding} {r : Except BridgeFault α}
    (nothing : pending = none ∨ ∃ fault, r = .error fault) (d : Desk C) :
    d.publish pending r = d := by
  rcases nothing with rfl | ⟨fault, rfl⟩
  · rfl
  · cases pending <;> rfl

end Desk

namespace Process

variable {host : Host σ} {p q p' : Process E σ} {t : ThreadId} {th th' : Thread E.Context σ}
  {e : EntryId} {x y : Entry E.Context}

/-! ## Taking the lock and giving it back -/

/-- What an action does to the lock of `e`. -/
inductive Tenure (t : ThreadId) (e : EntryId) (th th' : Thread E.Context σ) : Prop
  | keep (holds : th'.holds e = th.holds e) (uses : th'.uses e = th.uses e)
      (begins : th.begins? t e = none) (ends : th.ends? t e = none) (done : ¬ th'.New e)
  | lock {u} (stage : th.stage = .lock u) (here : u.entry = e)
      (after : th' = { th with stage := .check u })
  | lockToClose {back} (stage : th.stage = .lockToClose e back)
      (after : th' = { th with stage := .destroy e back })
  | unlock {u r} (stage : th.stage = .unlock u r) (here : u.entry = e)
      (after : th' = { th with stage := .host (u.back r) })
  | unlockClosed {back} (stage : th.stage = .unlockClosed e back)
      (after : th' = { th with stage := .host back })

theorem Act.tenure (act : Act host p t th p' th') (e : EntryId) : Tenure t e th th' := by
  cases act with
  | @lock u x stage entry free =>
    by_cases he : u.entry = e
    · exact .lock stage he rfl
    · refine .keep ?_ ?_ ?_ ?_ ?_ <;>
        simp [Thread.uses, Stage.use?, Thread.begins?, Thread.ends?, Thread.New, stage, he]
  | @lockToClose e' back x stage entry free =>
    by_cases he : e' = e
    · subst he
      exact .lockToClose stage rfl
    · refine .keep ?_ ?_ ?_ ?_ ?_ <;>
        simp [Thread.uses, Stage.use?, Thread.begins?, Thread.ends?, Thread.New, stage, he]
  | @unlock u r stage =>
    by_cases he : u.entry = e
    · exact .unlock stage he rfl
    · refine .keep ?_ ?_ ?_ ?_ ?_ <;>
        simp [Thread.uses, Stage.use?, Thread.begins?, Thread.ends?, Thread.New, stage, he]
  | @unlockClosed e' back stage =>
    by_cases he : e' = e
    · subst he
      exact .unlockClosed stage rfl
    · refine .keep ?_ ?_ ?_ ?_ ?_ <;>
        simp [Thread.uses, Stage.use?, Thread.begins?, Thread.ends?, Thread.New, stage, he]
  | @workCall w target args c resume i stage gate =>
    refine .keep ?_ ?_ ?_ ?_ ?_ <;>
      by_cases he : w.underway.entry = e <;>
      simp [Thread.uses, Stage.use?, Thread.begins?, Thread.ends?, Thread.New, stage, he,
        Nat.add_comm]
  | @resume body r call calls c stage result calling engine =>
    refine .keep ?_ ?_ ?_ ?_ ?_ <;>
      by_cases he : call.work.underway.entry = e <;>
      simp [Thread.uses, Stage.use?, Thread.begins?, Thread.ends?, Thread.New, stage, calling, he,
        Nat.add_comm]
  | read stage | write stage | createFailed stage | create stage | useClosed stage
  | useDefault stage | use stage | closeAgain stage | close stage | drop stage | handle stage
  | settings stage | references stage | events stage | findClosed stage | findGlobals stage
  | findEvaluate stage | findCollect stage | findUnnamed stage | findRefused stage
  | findBind stage | names stage | checkReleased stage | check stage | enter stage
  | workDone stage | workRefused stage | leave stage | publish stage | publishNothing stage
  | finish stage | finishLast stage | vacateNone stage | vacate stage | defer stage
  | destroy stage =>
    refine .keep ?_ ?_ ?_ ?_ ?_ <;>
      simp [Thread.uses, Stage.use?, Thread.begins?, Thread.ends?, Thread.New, stage]

theorem length_filter_waiting (e : EntryId) (th : Thread C σ) :
    ((th.calls.map (·.work.underway)).filter (·.entry = e)).length = th.waiting e := by
  rw [← List.countP_eq_length_filter, List.countP_map]
  rfl

theorem length_frames (e : EntryId) (th : Thread C σ) : (th.frames e).length = th.waiting e := by
  simp [Thread.frames, List.countP_eq_length_filter]

theorem isEmpty_frames (e : EntryId) (th : Thread C σ) :
    (th.frames e).isEmpty = decide (th.waiting e = 0) := by
  rw [Bool.eq_iff_iff, List.isEmpty_iff, ← List.length_eq_zero_iff, length_frames,
    decide_eq_true_eq]

theorem frames_eq_nil (idle : th.waiting e = 0) : th.frames e = [] :=
  List.length_eq_zero_iff.1 ((length_frames e th).trans idle)

/-- A thread whose calls are not on `e` has the lock for the operation of its stage. -/
theorem holder_of_idle (th : Thread C σ) (t : ThreadId) (idle : th.waiting e = 0) :
    th.holder t e = match th.stage.use? e with
      | some u => .use t u
      | none => .close t := by
  have calls := List.length_eq_zero_iff.1 ((length_filter_waiting e th).trans idle)
  unfold Thread.holder Thread.uses
  rw [calls, List.append_nil]
  cases th.stage.use? e <;> rfl

/-- Otherwise it has it for one of its calls, whatever its stage. -/
theorem holder_of_calls (t : ThreadId) (calls : th'.calls = th.calls) (busy : th.waiting e ≠ 0) :
    th'.holder t e = th.holder t e := by
  have nonempty : (th.calls.map (·.work.underway)).filter (·.entry = e) ≠ [] := fun h =>
    busy (by rw [← length_filter_waiting, h]; rfl)
  unfold Thread.holder Thread.uses
  rw [calls, List.getLast?_append_of_ne_nil _ nonempty, List.getLast?_append_of_ne_nil _ nonempty]

section Tenure

variable (tenure : Tenure t e th th')

include tenure

/-- A thread that does not have the lock and does not take it is as far as it was. -/
theorem Tenure.outside (outside : th.holds e = 0) (begins : th.begins? t e = none) :
    th'.holds e = 0 ∧ th.ends? t e = none := by
  cases tenure with
  | keep holds uses _ ends => exact ⟨holds.trans outside, ends⟩
  | lock stage here => simp_all [Thread.begins?]
  | lockToClose stage => simp_all [Thread.begins?]
  | unlock stage here => simp [stage, here] at outside
  | unlockClosed stage => simp [stage] at outside

/-- A thread that takes the lock has done nothing with it. -/
theorem Tenure.begins {k : Holder σ} (begins : th.begins? t e = some k) :
    0 < th'.holds e ∧ th'.New e ∧ th'.holder t e = k ∧ th.ends? t e = none := by
  cases tenure with
  | keep _ _ none => exact absurd (none.symm.trans begins) nofun
  | @lock u stage here after =>
    subst after
    obtain ⟨⟨-, idle⟩, rfl⟩ := by simpa only [Thread.begins?, stage, Option.ite_none_right_eq_some,
      Option.some.injEq] using begins
    refine ⟨by simp [here], ⟨idle, Or.inl ⟨u, rfl, here⟩⟩, ?_, by simp [Thread.ends?, stage]⟩
    refine (holder_of_idle { th with stage := .check u } t idle).trans ?_
    simp [Stage.use?, here]
  | @lockToClose back stage after =>
    subst after
    obtain ⟨⟨-, idle⟩, rfl⟩ := by simpa only [Thread.begins?, stage, Option.ite_none_right_eq_some,
      Option.some.injEq] using begins
    refine ⟨by simp, ⟨idle, Or.inr ⟨back, rfl⟩⟩, ?_, by simp [Thread.ends?, stage]⟩
    exact holder_of_idle { th with stage := .destroy e back } t idle
  | unlock stage => simp [Thread.begins?, stage] at begins
  | unlockClosed stage => simp [Thread.begins?, stage] at begins

/-- As long as a thread does not give the lock back for good it has it for what it took it for. -/
theorem Tenure.inside (inside : 0 < th.holds e) (ends : th.ends? t e = none) :
    0 < th'.holds e ∧ ¬ th'.New e ∧ th'.holder t e = th.holder t e ∧ th.begins? t e = none := by
  cases tenure with
  | keep holds uses begins _ done =>
    refine ⟨holds ▸ inside, done, ?_, begins⟩
    unfold Thread.holder
    rw [uses]
  | lock stage here after =>
    subst after
    have busy : th.waiting e ≠ 0 := by simpa [stage, Nat.pos_iff_ne_zero] using inside
    refine ⟨by simp [here], fun new => busy new.1, holder_of_calls t rfl busy, ?_⟩
    unfold Thread.begins?
    rw [stage]
    exact if_neg fun h => busy h.2
  | lockToClose stage after =>
    subst after
    have busy : th.waiting e ≠ 0 := by simpa [stage, Nat.pos_iff_ne_zero] using inside
    refine ⟨by simp, fun new => busy new.1, holder_of_calls t rfl busy, ?_⟩
    unfold Thread.begins?
    rw [stage]
    exact if_neg fun h => busy h.2
  | unlock stage here after =>
    subst after
    have busy : th.waiting e ≠ 0 := by simpa [Thread.ends?, stage, here] using ends
    exact ⟨by simpa [Nat.pos_iff_ne_zero] using busy, by simp [Thread.New],
      holder_of_calls t rfl busy, by simp [Thread.begins?, stage]⟩
  | unlockClosed stage after =>
    subst after
    have busy : th.waiting e ≠ 0 := by simpa [Thread.ends?, stage] using ends
    exact ⟨by simpa [Nat.pos_iff_ne_zero] using busy, by simp [Thread.New],
      holder_of_calls t rfl busy, by simp [Thread.begins?, stage]⟩

/-- A thread that gives the lock back for good is done with what it took it for. -/
theorem Tenure.ends {turn : Turn σ} (ends : th.ends? t e = some turn) :
    th'.holds e = 0 ∧ th.holder t e = turn.holder ∧ ¬ th.New e ∧ th.begins? t e = none := by
  cases tenure with
  | keep _ _ _ none => exact absurd (none.symm.trans ends) nofun
  | lock stage => simp [Thread.ends?, stage] at ends
  | lockToClose stage => simp [Thread.ends?, stage] at ends
  | @unlock u r stage here after =>
    subst after
    obtain ⟨⟨-, idle⟩, rfl⟩ := by simpa only [Thread.ends?, stage, Option.ite_none_right_eq_some,
      Option.some.injEq] using ends
    refine ⟨by simpa using idle, ?_, by simp [Thread.New, stage], by simp [Thread.begins?, stage]⟩
    rw [holder_of_idle th t idle, stage]
    simp [Stage.use?, here, Turn.holder]
  | unlockClosed stage after =>
    subst after
    obtain ⟨⟨-, idle⟩, rfl⟩ := by simpa only [Thread.ends?, stage, Option.ite_none_right_eq_some,
      Option.some.injEq] using ends
    refine ⟨by simpa using idle, ?_, by simp [Thread.New, stage], by simp [Thread.begins?, stage]⟩
    rw [holder_of_idle th t idle, stage]
    rfl

end Tenure

/-! ## What the step of a thread does on the interpreter -/

/-- The operation that ends is the last one of a closed interpreter if none waits and it is to
close. -/
theorem last_eq (depth : x.depth = 1 + th.waiting e) :
    x.last = ((th.frames e).isEmpty && x.desk.closing) := by
  rw [isEmpty_frames]
  unfold Entry.last
  rw [depth]
  simp
  rfl

/-- The step that makes `th'` of `th` and `y` of `x` reaches some of what lies ahead, or goes on by
a mark. -/
def Advances (e : EntryId) (th th' : Thread E.Context σ) (x y : Entry E.Context) : Prop :=
  ∀ returned, th'.ahead e y.desk (returned ++ (th.returns? e).toList)
    = (th.mark? e).elim (th.ahead e x.desk returned) ((th.ahead e x.desk returned).step E)

/-- What does not work on the interpreter leaves its desk as it is. -/
theorem EntryStep.desk_eq (step : EntryStep t th e x y) (off : th.stage.on e = false) :
    y.desk = x.desk := by
  cases step with
  | away | names | lock | checkReleased | enter | workRefused | leave | publishNothing | unlock
  | lockToClose | unlockClosed => rfl
  | check stage here | work stage here | publish stage here | finish stage here
  | finishLast stage here => simp [stage, here, Stage.on] at off
  | defer stage | destroy stage => simp [stage, Stage.on] at off

/-- What does not work on the interpreter leaves what lies ahead of its thread there. -/
theorem Act.advances_elsewhere (act : Act host p t th p' th') (hx : p.entry? e = some x)
    (hy : p'.entry? e = some y) (off : th.stage.on e = false) : Advances e th th' x y := by
  have desk : y.desk = x.desk := by
    obtain ⟨z, hz, step⟩ := act.entryStep hx
    obtain rfl := Option.some.inj (hz.symm.trans hy)
    exact step.desk_eq off
  have still (frames : th'.frames e = th.frames e)
      (after : ∀ b : Bench E.Context, th'.stage.ahead E e b = b)
      (before : ∀ b : Bench E.Context, th.stage.ahead E e b = b) (mark : th.mark? e = none)
      (returns : th.returns? e = none) : Advances e th th' x y := by
    intro returned
    simp [Thread.ahead, frames, desk, before, after, mark, returns]
  cases act with
  | @resume body r call calls c stage result calling engine =>
    intro returned
    rw [desk]
    by_cases he : call.work.underway.entry = e
    · have hc : x.desk.engine = some c := by
        rw [he, hx] at engine
        exact engine
      simp [Thread.mark?, Thread.returns?, stage, Stage.ahead, Thread.ahead, Thread.frames, result,
        calling, he, Bench.step, hc, HostCall.suspended]
    · simp [Thread.mark?, Thread.returns?, stage, Stage.ahead, Thread.ahead, Thread.frames, result,
        calling, he]
  | check stage | checkReleased stage | enter stage | workDone stage | workRefused stage
  | workCall stage | leave stage | publish stage | publishNothing stage | finish stage
  | finishLast stage | unlock stage | defer stage | destroy stage =>
    have he := by simpa [stage, Stage.on] using off
    refine still ?_ ?_ ?_ ?_ ?_ <;>
      simp [Thread.mark?, Thread.returns?, Thread.frames, stage, Stage.ahead, he]
  | read stage | write stage | createFailed stage | create stage | useClosed stage
  | useDefault stage | use stage | closeAgain stage | close stage | drop stage | handle stage
  | settings stage | references stage | events stage | findClosed stage | findGlobals stage
  | findEvaluate stage | findCollect stage | findUnnamed stage | findRefused stage
  | findBind stage | names stage | lock stage | vacateNone stage | vacate stage
  | lockToClose stage | unlockClosed stage =>
    refine still ?_ ?_ ?_ ?_ ?_ <;>
      simp [Thread.mark?, Thread.returns?, Thread.frames, stage, Stage.ahead, Program.result?]

/-! ### Each stage -/

section Stages

variable {u : Underway σ} {w : Work E.Context σ} {c : E.Context} {back : Program σ MethodResult}

theorem advances_check (stage : th.stage = .check u) (here : u.entry = e)
    (engine : x.engine = some c) :
    Advances e th { th with stage := .enter u (x.pending u.operation) } x
      (x.engage u.operation) := by
  intro returned
  have begun : x.desk.engine = some c := engine
  have there : (x.desk.prepare u.operation).2.engine = some c := by
    rw [Desk.engine_prepare, begun]
  simp [Thread.mark?, Thread.returns?, stage, here, Stage.ahead, Thread.ahead, Thread.frames,
    Bench.step, begun, Entry.desk_engage, Entry.pending_eq, there]

theorem advances_checkReleased (stage : th.stage = .check u) (here : u.entry = e)
    (gone : x.engine = none) :
    Advances e th { th with stage := .unlock u (.error .closed) } x x := by
  intro returned
  have none : x.desk.engine = none := gone
  simp [Thread.mark?, Thread.returns?, stage, here, Stage.ahead, Thread.ahead, Thread.frames,
    Bench.step, none]

theorem advances_enter {pending : Option Binding} {direct : Bool}
    (stage : th.stage = .enter u pending) (here : u.entry = e) (engine : x.engine = some c)
    (desk : y.desk = x.desk) :
    Advances e th
      { th with stage := .work ⟨u, direct, pending⟩ (begin E u.operation pending c) } x y := by
  intro returned
  have entered : x.desk.engine = some c := engine
  simp [Thread.mark?, Thread.returns?, stage, here, Stage.ahead, Thread.ahead, Thread.frames,
    entered, desk]

theorem advances_done {r : Except BridgeFault w.underway.operation.Result}
    (stage : th.stage = .work w (.done r c)) (here : w.underway.entry = e) :
    Advances e th { th with stage := .leave w r } x { x with engine := some c } := by
  intro returned
  simp [Thread.mark?, Thread.returns?, stage, here, Stage.ahead, Thread.ahead, Thread.frames,
    Bench.advance]
  rfl

section Call

variable {target : CallTarget} {args : List ScriptValue}
  {resume : Answer → E.Context →
    Activity E.Context (Except BridgeFault w.underway.operation.Result)}

theorem advances_refused {fault : CallFault}
    (stage : th.stage = .work w (.call target args c resume)) (here : w.underway.entry = e)
    (gate : x.board.route target args = .error fault) :
    Advances e th { th with stage := .work w (resume (.error fault) c) } x x := by
  intro returned
  have refused : x.desk.board.route target args = .error fault := gate
  simp [Thread.mark?, Thread.returns?, stage, here, Stage.ahead, Thread.ahead, Thread.frames,
    Bench.advance, refused]

theorem advances_call {i : Invocation} {body : Program σ MethodResult} {active : List EntryId}
    (stage : th.stage = .work w (.call target args c resume)) (here : w.underway.entry = e)
    (gate : x.board.route target args = .ok i) :
    Advances e th ⟨.host body, ⟨w, i, resume⟩ :: th.calls, active⟩ x
      { x with engine := some c } := by
  intro returned
  have admitted : x.desk.board.route target args = .ok i := gate
  simp [Thread.mark?, Thread.returns?, stage, here, Stage.ahead, Thread.ahead, Thread.frames,
    Bench.advance, admitted, HostCall.suspended]
  exact ⟨rfl, rfl⟩

end Call

section Result

variable {r : Except BridgeFault w.underway.operation.Result}

theorem advances_leave (stage : th.stage = .leave w r) (here : w.underway.entry = e)
    (desk : y.desk = x.desk) : Advances e th { th with stage := .publish w r } x y := by
  intro returned
  simp [Thread.mark?, Thread.returns?, stage, here, Stage.ahead, Thread.ahead, Thread.frames, desk]

/-- What is published is on the desk, and what is left of the work is to settle. -/
theorem advances_publish (stage : th.stage = .publish w r) (here : w.underway.entry = e)
    (desk : y.desk = x.desk.publish w.pending r) :
    Advances e th { th with stage := .finish w.underway r } x y := by
  intro returned
  simp [Thread.mark?, Thread.returns?, stage, here, Stage.ahead, Thread.ahead, Thread.frames,
    Bench.conclude, Bench.publish, desk]

end Result

section Settled

variable {r : Except BridgeFault u.operation.Result}

theorem advances_finish (stage : th.stage = .finish u r) (here : u.entry = e)
    (depth : x.depth = 1 + th.waiting e) (more : x.last = false) :
    Advances e th { th with stage := .unlock u r } x x.dismiss := by
  intro returned
  have unsettled := more
  rw [last_eq depth] at unsettled
  simp [Thread.mark?, Thread.returns?, stage, here, Stage.ahead, Thread.ahead, Bench.settle,
    Entry.desk_dismiss more, unsettled]
  rfl

theorem advances_finishLast (stage : th.stage = .finish u r) (here : u.entry = e)
    (depth : x.depth = 1 + th.waiting e) (last : x.last = true) :
    Advances e th { th with stage := .unlock u r } x x.dismiss.dropEngine := by
  intro returned
  have settled := last
  rw [last_eq depth] at settled
  simp [Thread.mark?, Thread.returns?, stage, here, Stage.ahead, Thread.ahead, Bench.settle,
    Entry.desk_dismissLast last, settled]
  rfl

theorem advances_unlock (stage : th.stage = .unlock u r) (here : u.entry = e) :
    Advances e th { th with stage := .host (u.back r) } x x.letGo := by
  intro returned
  simp [Thread.mark?, Thread.returns?, stage, here, Stage.ahead, Thread.ahead, Thread.frames,
    Bench.give]
  rfl

end Settled

section Close

/-- Where operations are under way a close leaves the engine to them. -/
theorem advances_defer (stage : th.stage = .destroy e back) (busy : th.waiting e ≠ 0) :
    Advances e th { th with stage := .unlockClosed e back } x { x with closing := true } := by
  intro returned
  have inner : (th.frames e).isEmpty = false := by
    rw [isEmpty_frames, decide_eq_false busy]
  simp [Thread.mark?, Thread.returns?, stage, Stage.ahead, Thread.ahead, Bench.step, inner]
  exact ⟨rfl, rfl⟩

theorem advances_destroy (stage : th.stage = .destroy e back) (idle : th.waiting e = 0)
    (unclosed : x.closing = false) :
    Advances e th { th with stage := .unlockClosed e back } x x.dropEngine := by
  intro returned
  have outer : (th.frames e).isEmpty = true := by
    rw [isEmpty_frames, decide_eq_true idle]
  simp [Thread.mark?, Thread.returns?, stage, Stage.ahead, Thread.ahead, Bench.step, outer,
    Entry.desk_dropEngine unclosed]
  rfl

end Close

end Stages

/-- A step of the thread that has the lock of `e` reaches some of what lies ahead there, or goes on
by a mark. -/
theorem Act.advances (act : Act host p t th p' th') (hx : p.entry? e = some x)
    (hy : p'.entry? e = some y) (depth : x.depth = th.inside e)
    (closing : x.closing = true → 0 < x.depth) : Advances e th th' x y := by
  cases on : th.stage.on e with
  | false => exact act.advances_elsewhere hx hy on
  | true =>
    have same {e' : EntryId} {z : Entry E.Context} (hz : p.entry? e' = some z) (he : e' = e) :
        x = z := Option.some.inj (hx.symm.trans (he ▸ hz))
    cases act with
    | checkReleased stage entry gone =>
      have here := by simpa [stage, Stage.on] using on
      obtain rfl := Option.some.inj (hx.symm.trans hy)
      exact advances_checkReleased stage here (same entry here ▸ gone)
    | check stage entry engine =>
      have here := by simpa [stage, Stage.on] using on
      obtain rfl := same entry here
      obtain rfl := eq_of_modify hx here hy
      exact advances_check stage here engine
    | enter stage entry entrance engine =>
      have here := by simpa [stage, Stage.on] using on
      obtain rfl := same entry here
      obtain rfl := eq_of_modify hx here hy
      refine advances_enter stage here engine ?_
      rcases entrance?_eq_some entrance with ⟨-, -, rfl⟩ | ⟨-, -, -, rfl⟩ <;> rfl
    | workDone stage =>
      have here := by simpa [stage, Stage.on] using on
      obtain rfl := eq_of_modify hx here hy
      exact advances_done stage here
    | workRefused stage gate =>
      have here := by simpa [stage, Stage.on] using on
      obtain rfl := Option.some.inj (hx.symm.trans hy)
      rw [here, boardOf_eq hx] at gate
      exact advances_refused stage here gate
    | workCall stage gate =>
      have here := by simpa [stage, Stage.on] using on
      obtain rfl := eq_of_modify hx here hy
      rw [here, boardOf_eq hx] at gate
      exact advances_call stage here gate
    | leave stage =>
      have here := by simpa [stage, Stage.on] using on
      refine advances_leave stage here ?_
      split_ifs at hy
      · rw [Option.some.inj (hx.symm.trans hy)]
      · rw [eq_of_modify hx here hy]
        rfl
    | publish stage entry pending ok =>
      have here := by simpa [stage, Stage.on] using on
      obtain rfl := eq_of_modify hx here hy
      refine advances_publish stage here ?_
      rw [pending, ok]
      rfl
    | publishNothing stage nothing =>
      have here := by simpa [stage, Stage.on] using on
      obtain rfl := Option.some.inj (hx.symm.trans hy)
      rw [here, hx] at nothing
      exact advances_publish stage here
        (Desk.publish_eq_self (nothing.resolve_left (Option.some_ne_none _)) _).symm
    | finish stage entry more =>
      have here := by simpa [stage, Stage.on] using on
      obtain rfl := same entry here
      obtain rfl := eq_of_modify hx here hy
      exact advances_finish stage here (depth.trans (by simp [stage, here])) more
    | finishLast stage entry last =>
      have here := by simpa [stage, Stage.on] using on
      obtain rfl := same entry here
      rw [modifyEntry_modifyEntry] at hy
      obtain rfl := eq_of_modify hx here hy
      exact advances_finishLast stage here (depth.trans (by simp [stage, here])) last
    | unlock stage =>
      have here := by simpa [stage, Stage.on] using on
      obtain rfl := eq_of_modify hx here hy
      exact advances_unlock stage here
    | @defer e' back z stage entry busy =>
      obtain rfl : e' = e := by simpa [stage, Stage.on] using on
      obtain rfl := same entry rfl
      obtain rfl := eq_of_modify hx rfl hy
      have waiting : x.depth = th.waiting e' := depth.trans (by simp [stage])
      exact advances_defer stage (by omega)
    | @destroy e' back z stage entry idle =>
      obtain rfl : e' = e := by simpa [stage, Stage.on] using on
      obtain rfl := same entry rfl
      obtain rfl := eq_of_modify hx rfl hy
      have waiting : x.depth = th.waiting e' := depth.trans (by simp [stage])
      refine advances_destroy stage (by omega) ?_
      exact Bool.eq_false_of_not_eq_true fun closed => Nat.ne_of_gt (closing closed) idle
    | read stage | write stage | createFailed stage | create stage | useClosed stage
    | useDefault stage | use stage | closeAgain stage | close stage | drop stage | handle stage
    | settings stage | references stage | events stage | resume stage | findClosed stage
    | findGlobals stage | findEvaluate stage | findCollect stage | findUnnamed stage
    | findRefused stage | findBind stage | names stage | lock stage | vacateNone stage
    | vacate stage | lockToClose stage | unlockClosed stage =>
      simp [stage, Stage.on] at on

/-! ## Marks -/

theorem holds_of_mark? {m : Mark} (mark : th.mark? e = some m) : 0 < th.holds e := by
  unfold Thread.mark? at mark
  cases stage : th.stage with
  | check u => simp_all
  | destroy e' back => simp_all
  | host body =>
    rw [stage] at mark
    cases result : body.result? with
    | none => simp [result] at mark
    | some r =>
      cases calling : th.calls with
      | nil => simp [result, calling] at mark
      | cons call calls =>
        have here : call.work.underway.entry = e := by
          by_contra h
          simp [result, calling, h] at mark
        simp [calling, here]
  | _ => simp [stage] at mark

theorem holds_of_returns? {x : Returned} (returns : th.returns? e = some x) : 0 < th.holds e := by
  unfold Thread.returns? at returns
  cases stage : th.stage <;> simp_all

/-- A thread that has just taken the lock begins what it has taken it for. -/
theorem mark?_of_new {th : Thread E.Context σ} (t : ThreadId) (new : th.New e) :
    th.mark? e = some (th.holder t e).mark ∧ th.ends? t e = none ∧
      ∀ d returned, th.ahead e d returned = ⟨d, [], returned⟩ := by
  obtain ⟨idle, ⟨u, stage, here⟩ | ⟨back, stage⟩⟩ := new
  · rw [holder_of_idle th t idle]
    refine ⟨by simp [Thread.mark?, stage, here, Stage.use?, Holder.mark],
      by simp [Thread.ends?, stage], fun d returned => ?_⟩
    rw [Thread.ahead, frames_eq_nil idle, stage]
    rfl
  · rw [holder_of_idle th t idle]
    refine ⟨by simp [Thread.mark?, stage, Stage.use?, Holder.mark],
      by simp [Thread.ends?, stage], fun d returned => ?_⟩
    rw [Thread.ahead, frames_eq_nil idle, stage]
    rfl

/-- At any other mark of a thread an operation waits for the host. -/
theorem frames_of_mark? {th : Thread E.Context σ} {m : Mark} (mark : th.mark? e = some m)
    (old : ¬ th.New e) (d : Desk E.Context) (returned : List Returned) :
    (th.ahead e d returned).frames ≠ [] := by
  have busy (h : th.waiting e ≠ 0) : th.frames e ≠ [] := fun frames =>
    h ((length_frames e th).symm.trans (by rw [frames]; rfl))
  unfold Thread.mark? at mark
  unfold Thread.ahead
  cases stage : th.stage with
  | check u =>
    have here : u.entry = e := by simp_all
    exact busy fun idle => old ⟨idle, Or.inl ⟨u, stage, here⟩⟩
  | destroy e' back =>
    obtain rfl : e' = e := by simp_all
    exact busy fun idle => old ⟨idle, Or.inr ⟨back, stage⟩⟩
  | host body =>
    refine busy ?_
    rw [stage] at mark
    cases result : body.result? with
    | none => simp [result] at mark
    | some r =>
      cases calling : th.calls with
      | nil => simp [result, calling] at mark
      | cons call calls =>
        have here : call.work.underway.entry = e := by
          by_contra h
          simp [result, calling, h] at mark
        simp [calling, here]
  | _ => simp [stage] at mark

/-- What is left of a turn as its thread gives the lock back. -/
theorem ahead_of_ends? {th : Thread E.Context σ} {turn : Turn σ} (ends : th.ends? t e = some turn)
    (d : Desk E.Context) (returned : List Returned) :
    th.ahead e d returned = ⟨d, [], returned ++ (th.returns? e).toList⟩ ∧ th.mark? e = none ∧
      match turn with
      | .use _ u r => th.returns? e = some ⟨u.operation, r⟩
      | .close _ => th.returns? e = none := by
  unfold Thread.ends? at ends
  unfold Thread.ahead Thread.returns? Thread.mark?
  cases stage : th.stage with
  | unlock u r =>
    obtain ⟨⟨here, idle⟩, rfl⟩ := by simpa only [stage, Option.ite_none_right_eq_some,
      Option.some.injEq] using ends
    simp [Stage.ahead, here, frames_eq_nil idle, Bench.give]
  | unlockClosed e' back =>
    obtain ⟨⟨here, idle⟩, rfl⟩ := by simpa only [stage, Option.ite_none_right_eq_some,
      Option.some.injEq] using ends
    simp [Stage.ahead, frames_eq_nil idle]
  | _ => simp [stage] at ends

end Process

end Drawbridge
