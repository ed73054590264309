import Drawbridge.Proofs.Process.Drafts
import Drawbridge.Proofs.Process.Frames

/-!
# Binds

A thread that asks for a bind is followed until it has the answer, while the engine may call the
host, which may bind or close again, and other threads do anything.  `Answers` lists the answers in
the order of the checks, each with what the bind itself did to the board.  `Phase` says how far a
bind is, and a step of its thread takes it on (`Phase.step`).  By `bind_answered` a bind that fails
publishes nothing and drops nothing, and one that succeeds publishes its binding.
-/

namespace Drawbridge

open Switchboard (Move)

variable {C : Type} {E : Engine} {σ : Type}

/-- What an activity may come to, if the host answers in some way. -/
inductive Activity.Yields {α : Type} : Activity C α → α → Prop
  | done (a : α) (c : C) : Yields (.done a c) a
  | call {target args c resume answer c' a} (rest : Yields (resume answer c') a) :
    Yields (.call target args c resume) a

/-- A small engine: once a global is there no other takes its place. -/
def Engine.frozen : Engine where
  Context := List Binding
  create? _ := some []
  evaluate _ _ bindings := .done (.ok "") bindings
  install b bindings :=
    if bindings.isEmpty then .done (.ok ()) [b]
    else .done (.error (.thrown (some "global is read-only") none)) bindings
  collect := id
  proxies := id

/-- The thread runs host code. -/
def Stage.isHost : Stage C σ → Bool
  | .host _ => true
  | _ => false

namespace Process

variable {host : Host σ} {p q p' : Process E σ} {t : ThreadId} {th th' : Thread E.Context σ}

/-! ## What a bind does -/

/-- A thread that asks for a bind, and the entry that it finds. -/
structure BindRequest (E : Engine) (σ : Type) where
  t : ThreadId
  th : Thread E.Context σ
  js : InterpreterId
  entry : EntryId
  name : String
  contract : Contract
  object : ObjectId
  next : Except BridgeFault Unit → Program σ MethodResult

/-- What is made of the result of an installation. -/
def installed : Except Failure Unit → Except BridgeFault Unit
  | .ok () => .ok ()
  | .error failure => .error (.engine failure.message)

namespace BindRequest

variable (k : BindRequest E σ)

/-- Making the binding, as a move on the board. -/
def prepares (roster : Roster) : Move := .prepare k.name roster k.object

/-- The bind as an operation under way. -/
def underway (roster : Roster) : Underway σ := ⟨k.entry, .bind k.name roster k.object, k.next⟩

/-- The work of the engine for the bind. -/
def work (roster : Roster) (direct : Bool) (binding : Binding) : Work E.Context σ :=
  ⟨k.underway roster, direct, some binding⟩

/-- The thread at a stage of the bind. -/
def staged (stage : Stage E.Context σ) : Thread E.Context σ := { k.th with stage }

/-- The thread is back in host code. -/
def Back (p : Process E σ) : Prop :=
  ∃ s, p.threads[k.t.index]? = some s ∧ s.calls.length = k.th.calls.length ∧
    s.stage.isHost = true

instance (p : Process E σ) : Decidable (k.Back p) :=
  inferInstanceAs (Decidable (∃ s ∈ p.threads[k.t.index]?,
    s.calls.length = k.th.calls.length ∧ s.stage.isHost = true))

/-- A step of the bind itself: not one of another thread, nor of a call that the engine makes. -/
def Owns (m : Moment E σ) : Prop := m.thread = k.t ∧ m.process.nesting k.t = k.th.calls.length

instance (m : Moment E σ) : Decidable (k.Owns m) := inferInstanceAs (Decidable (_ ∧ _))

/-- What a step of the bind itself does to the board. A clear that a close has left to it is put
down to the close. -/
def deed? (m : Moment E σ) : Option Move :=
  if k.Owns m then (m.move? k.entry).filter (· ≠ .clear) else none

/-- What a step does to the board that is not of the bind itself. -/
def other? (m : Moment E σ) : Option Move :=
  if (k.deed? m).isSome then none else m.move? k.entry

/-- What the bind itself has done to the board, in order. -/
def deeds (past : List (Moment E σ)) : List Move := (past.filterMap k.deed?).reverse

/-- What was done to the board besides, in order. -/
def others (past : List (Moment E σ)) : List Move := (past.filterMap k.other?).reverse

/-- A method called by the engine closed the interpreter. -/
def ClosedWithin (past : List (Moment E σ)) : Prop :=
  ∃ m ∈ past, m.thread = k.t ∧ k.th.calls.length < m.process.nesting k.t ∧
    ∃ s back, m.process.threads[k.t.index]? = some s ∧ s.stage = .destroy k.entry back

/-- The thread was in no engine and called no method. -/
def Quiet (past : List (Moment E σ)) : Prop :=
  ∀ m ∈ past, ∀ s, m.process.threads[k.t.index]? = some s →
    s.calls = k.th.calls ∧ ∀ e, s.stage.inside e = 0

/-- One of the moments is that at which the bind makes its step of this stage. -/
structure At (past : List (Moment E σ)) (m : Moment E σ) (stage : Stage E.Context σ) : Prop where
  mem : m ∈ past
  own : m.thread = k.t
  at_t : m.process.threads[k.t.index]? = some (k.staged stage)

/-- The bind, which was asked for in `b`, looks the interpreter up. -/
def lookup (b : Process E σ) : Stage E.Context σ :=
  .find (b.handleOf k.js) (.bind k.name k.contract k.object) k.next

/-- At this moment the bind looks the interpreter up, and its handle leads to the entry. -/
structure Found (b : Process E σ) (past : List (Moment E σ)) (m : Moment E σ) : Prop
    extends k.At past m (k.lookup b) where
  found : m.process.directory.get? (b.handleOf k.js) = some k.entry

/-- The interpreter is found, and name and contract are in order. -/
structure Accepted (host : Host σ) (b : Process E σ) (past : List (Moment E σ)) (roster : Roster) :
    Prop where
  found : ∃ m, k.Found b past m ∧
    k.contract.check (host.facets m.process.memory k.object) = .ok roster
  named : k.name.isEmpty = false

/-- The engine is there, and `binding` is made. -/
structure Begun (host : Host σ) (b : Process E σ) (past : List (Moment E σ)) (roster : Roster)
    (binding : Binding) : Prop extends k.Accepted host b past roster where
  live : ∃ m x, k.At past m (.check (k.underway roster)) ∧ m.process.entry? k.entry = some x ∧
    x.engine.isSome ∧ binding = (x.board.prepare k.name roster k.object).1

/-- The engine is done with the installation of `binding`, and `a` came of it. -/
def Left (past : List (Moment E σ)) (roster : Roster) (binding : Binding)
    (a : Except Failure Unit) : Prop :=
  ∃ m direct, k.At past m (.publish (k.work roster direct binding) (installed a))

/-- The answers to a bind asked for in `b`, and what the bind itself did to the board. -/
inductive Answers (host : Host σ) (b : Process E σ) (past : List (Moment E σ)) :
    Except BridgeFault Unit → List Move → Prop
  | closed (null : (b.handleOf k.js).isNull = true) : Answers host b past (.error .closed) []
  | gone {m} (here : k.At past m (k.lookup b))
      (gone : m.process.directory.get? (b.handleOf k.js) = none) :
    Answers host b past (.error .closed) []
  | unnamed {m} (found : k.Found b past m) (unnamed : k.name.isEmpty = true) :
    Answers host b past (.error (.bind .unnamed)) []
  | refused {m refusal} (found : k.Found b past m) (named : k.name.isEmpty = false)
      (check : k.contract.check (host.facets m.process.memory k.object) = .error refusal) :
    Answers host b past (.error (.bind refusal)) []
  | released {m roster x} (accepted : k.Accepted host b past roster)
      (here : k.At past m (.check (k.underway roster)))
      (entry : m.process.entry? k.entry = some x) (gone : x.engine = none) :
    Answers host b past (.error .closed) []
  | failed {roster binding c failure} (begun : k.Begun host b past roster binding)
      (fails : (E.install binding c).Yields (.error failure))
      (left : k.Left past roster binding (.error failure)) :
    Answers host b past (.error (.engine failure.message)) [k.prepares roster]
  | bound {roster binding c} (begun : k.Begun host b past roster binding)
      (succeeds : (E.install binding c).Yields (.ok ()))
      (left : k.Left past roster binding (.ok ())) :
    Answers host b past (.ok ()) [k.prepares roster, .commit binding]

/-! ## How far a bind is -/

/-- The moves that are made for a result. -/
def commits (binding : Binding) : Except Failure Unit → List Move
  | .ok () => [.commit binding]
  | .error _ => []

/-- Where the thread is, and what the bind itself has done to the board. -/
inductive Phase (host : Host σ) (b : Process E σ) (past : List (Moment E σ)) :
    List Move → Thread E.Context σ → Prop
  | find (quiet : k.Quiet past) :
    Phase host b past [] (k.staged (k.lookup b))
  | lock {roster} (quiet : k.Quiet past) (accepted : k.Accepted host b past roster) :
    Phase host b past [] (k.staged (.lock (k.underway roster)))
  | check {roster} (quiet : k.Quiet past) (accepted : k.Accepted host b past roster) :
    Phase host b past [] (k.staged (.check (k.underway roster)))
  | released {roster m x} (quiet : k.Quiet past) (accepted : k.Accepted host b past roster)
      (here : k.At past m (.check (k.underway roster)))
      (entry : m.process.entry? k.entry = some x) (gone : x.engine = none) :
    Phase host b past [] (k.staged (.unlock (k.underway roster) (.error .closed)))
  | enter {roster binding} (begun : k.Begun host b past roster binding) :
    Phase host b past [k.prepares roster]
      (k.staged (.enter (k.underway roster) (some binding)))
  | work {roster binding direct c} {x : Activity E.Context (Except Failure Unit)}
      (begun : k.Begun host b past roster binding)
      (yields : ∀ a, x.Yields a → (E.install binding c).Yields a) :
    Phase host b past [k.prepares roster]
      (k.staged (.work (k.work roster direct binding) (x.map installed)))
  | inside {roster binding direct c invocation s}
      {resume : Answer → E.Context → Activity E.Context (Except Failure Unit)}
      (begun : k.Begun host b past roster binding)
      (yields : ∀ answer c' a, (resume answer c').Yields a → (E.install binding c).Yields a)
      (inside : s.Inside ⟨k.work roster direct binding, invocation,
        fun answer c => (resume answer c).map installed⟩ k.th.calls k.th.active) :
    Phase host b past [k.prepares roster] s
  | leave {roster binding direct c a} (begun : k.Begun host b past roster binding)
      (yields : (E.install binding c).Yields a) :
    Phase host b past [k.prepares roster]
      (k.staged (.leave (k.work roster direct binding) (installed a)))
  | publish {roster binding direct c a} (begun : k.Begun host b past roster binding)
      (yields : (E.install binding c).Yields a) :
    Phase host b past [k.prepares roster]
      (k.staged (.publish (k.work roster direct binding) (installed a)))
  | finish {roster binding c a} (begun : k.Begun host b past roster binding)
      (yields : (E.install binding c).Yields a) (left : k.Left past roster binding a) :
    Phase host b past (k.prepares roster :: commits binding a)
      (k.staged (.finish (k.underway roster) (installed a)))
  | unlock {roster binding c a} (begun : k.Begun host b past roster binding)
      (yields : (E.install binding c).Yields a) (left : k.Left past roster binding a) :
    Phase host b past (k.prepares roster :: commits binding a)
      (k.staged (.unlock (k.underway roster) (installed a)))
  | answered {r deeds} (answer : k.Answers host b past r deeds)
      (quiet : deeds = [] → k.Quiet past) :
    Phase host b past deeds (k.staged (.host (k.next r)))

/-! ### Later moments -/

section Mono

variable {k} {b : Process E σ} {past : List (Moment E σ)} {m : Moment E σ} {roster : Roster}
  {binding : Binding} {r : Except BridgeFault Unit} {deeds : List Move}

theorem At.cons {m' : Moment E σ} {stage : Stage E.Context σ} (here : k.At past m' stage) :
    k.At (m :: past) m' stage :=
  { here with mem := List.mem_cons_of_mem _ here.mem }

theorem At.now {stage : Stage E.Context σ} (at_t : p.threads[k.t.index]? = some (k.staged stage)) :
    k.At (⟨p, k.t⟩ :: past) ⟨p, k.t⟩ stage :=
  ⟨List.mem_cons_self .., rfl, at_t⟩

theorem Found.cons {m' : Moment E σ} (found : k.Found b past m') : k.Found b (m :: past) m' :=
  ⟨found.toAt.cons, found.found⟩

theorem Accepted.cons (accepted : k.Accepted host b past roster) :
    k.Accepted host b (m :: past) roster := by
  obtain ⟨⟨m', found, check⟩, named⟩ := accepted
  exact ⟨⟨m', found.cons, check⟩, named⟩

theorem Begun.cons (begun : k.Begun host b past roster binding) :
    k.Begun host b (m :: past) roster binding := by
  obtain ⟨m', x, here, live⟩ := begun.live
  exact ⟨begun.toAccepted.cons, m', x, here.cons, live⟩

theorem Left.cons {a : Except Failure Unit} (left : k.Left past roster binding a) :
    k.Left (m :: past) roster binding a := by
  obtain ⟨m', direct, here⟩ := left
  exact ⟨m', direct, here.cons⟩

theorem Answers.cons (answer : k.Answers host b past r deeds) :
    k.Answers host b (m :: past) r deeds := by
  cases answer with
  | closed null => exact .closed null
  | gone here gone => exact .gone here.cons gone
  | unnamed found unnamed => exact .unnamed found.cons unnamed
  | refused found named check => exact .refused found.cons named check
  | released accepted here entry gone => exact .released accepted.cons here.cons entry gone
  | failed begun fails left => exact .failed begun.cons fails left.cons
  | bound begun succeeds left => exact .bound begun.cons succeeds left.cons

theorem Quiet.cons (quiet : k.Quiet past) {s : Thread E.Context σ}
    (at_t : p.threads[k.t.index]? = some s) (calls : s.calls = k.th.calls)
    (stage : ∀ e, s.stage.inside e = 0) : k.Quiet (⟨p, t⟩ :: past) := by
  intro m hm s' hs'
  rcases List.mem_cons.1 hm with rfl | hm
  · obtain rfl := Option.some.inj (at_t.symm.trans hs')
    exact ⟨calls, stage⟩
  · exact quiet m hm s' hs'

/-- A step of another thread leaves a bind where it is. -/
theorem Phase.cons {s : Thread E.Context σ} (phase : k.Phase host b past deeds s)
    (at_t : p.threads[k.t.index]? = some s) : k.Phase host b (⟨p, t⟩ :: past) deeds s := by
  cases phase with
  | find quiet => exact .find (quiet.cons at_t rfl fun _ => rfl)
  | lock quiet accepted => exact .lock (quiet.cons at_t rfl fun _ => rfl) accepted.cons
  | check quiet accepted => exact .check (quiet.cons at_t rfl fun _ => rfl) accepted.cons
  | released quiet accepted here entry gone =>
    exact .released (quiet.cons at_t rfl fun _ => rfl) accepted.cons here.cons entry gone
  | enter begun => exact .enter begun.cons
  | work begun yields => exact .work begun.cons yields
  | inside begun yields inside => exact .inside begun.cons yields inside
  | leave begun yields => exact .leave begun.cons yields
  | publish begun yields => exact .publish begun.cons yields
  | finish begun yields left => exact .finish begun.cons yields left.cons
  | unlock begun yields left => exact .unlock begun.cons yields left.cons
  | answered answer quiet =>
    exact .answered answer.cons fun h => (quiet h).cons at_t rfl fun _ => rfl

end Mono

/-! ### Steps of the bind -/

section Step

variable {k} {b : Process E σ} {past : List (Moment E σ)} {ds : List Move}
  {s : Thread E.Context σ} {x : Entry E.Context}

theorem deeds_cons (m : Moment E σ) (past : List (Moment E σ)) :
    k.deeds (m :: past) = k.deeds past ++ (k.deed? m).toList := by
  unfold deeds
  cases h : k.deed? m <;> simp [h]

theorem owns_iff (at_t : q.threads[k.t.index]? = some s) :
    k.Owns ⟨q, k.t⟩ ↔ s.calls.length = k.th.calls.length := by
  unfold Owns
  rw [nesting_eq at_t]
  exact and_iff_right rfl

theorem deed?_staged {stage : Stage E.Context σ}
    (at_t : q.threads[k.t.index]? = some (k.staged stage)) :
    k.deed? ⟨q, k.t⟩
      = ((q.entry? k.entry).bind (stage.move? k.entry)).filter (· ≠ .clear) := by
  unfold deed? Moment.move?
  rw [if_pos ((owns_iff at_t).2 rfl), at_t]
  rfl

theorem holds_staged {stage : Stage E.Context σ} (holds : stage.holds k.entry = 1) :
    0 < (k.staged stage).holds k.entry :=
  Nat.lt_of_lt_of_le (holds ▸ Nat.one_pos) (Nat.le_add_right _ _)

/-- What is published is the binding, if the engine installed it. -/
theorem move?_publish (roster : Roster) (direct : Bool) (binding : Binding)
    (a : Except Failure Unit) :
    Stage.move? k.entry x (.publish (k.work roster direct binding) (installed a))
      = (commits binding a).head? := by
  cases a with
  | error failure => rfl
  | ok y => exact if_pos rfl

theorem deed?_inside {call : HostCall E.Context σ} (at_t : q.threads[k.t.index]? = some s)
    (inside : s.Inside call k.th.calls k.th.active) : k.deed? ⟨q, k.t⟩ = none := by
  unfold deed?
  rw [if_neg]
  rw [owns_iff at_t]
  exact Nat.ne_of_gt inside.length_lt

/-- The step from `q` to `p` takes the bind on. -/
def Goes (host : Host σ) (b : Process E σ) (past : List (Moment E σ)) (ds : List Move)
    (q p : Process E σ) : Prop :=
  ∃ s, p.threads[k.t.index]? = some s ∧
    k.Phase host b (⟨q, k.t⟩ :: past) (ds ++ (k.deed? ⟨q, k.t⟩).toList) s

section Goes

variable {stage : Stage E.Context σ} {s' : Thread E.Context σ} {roster : Roster}
  {binding : Binding} {direct : Bool} {c : E.Context} {a : Except Failure Unit}

theorem goes_of_act (at_t : q.threads[k.t.index]? = some s) (next : q.step? host k.t = some p)
    {ds' : List Move} (act : Act host q k.t s p' s')
    (phase : k.Phase host b (⟨q, k.t⟩ :: past) ds' s')
    (deeds : ds ++ (k.deed? ⟨q, k.t⟩).toList = ds') : k.Goes host b past ds q p := by
  unfold Goes
  rw [act.eq_of_step? at_t next, deeds]
  exact ⟨s', getElem?_setThread_self (act.threads ▸ at_t), phase⟩

/-- A step that makes no move, other than a clear. -/
theorem goes_still (at_t : q.threads[k.t.index]? = some (k.staged stage))
    (next : q.step? host k.t = some p)
    (still : ∀ x, q.entry? k.entry = some x →
      (stage.move? k.entry x).filter (· ≠ .clear) = none)
    (act : Act host q k.t (k.staged stage) p' s')
    (phase : k.Phase host b (⟨q, k.t⟩ :: past) ds s') : k.Goes host b past ds q p := by
  refine goes_of_act at_t next act phase ?_
  have nothing : k.deed? ⟨q, k.t⟩ = none := by
    rw [deed?_staged at_t]
    cases hx : q.entry? k.entry with
    | none => rfl
    | some x => exact still x hx
  rw [nothing]
  exact List.append_nil ds

theorem goes_find (quiet : k.Quiet past)
    (at_t : q.threads[k.t.index]? = some (k.staged (k.lookup b)))
    (finds : ∀ e, q.directory.get? (b.handleOf k.js) = some e → e = k.entry)
    (next : q.step? host k.t = some p) :
    k.Goes host b past [] q p := by
  have quiet : k.Quiet (⟨q, k.t⟩ :: past) := quiet.cons at_t rfl fun _ => rfl
  have goes {p' s'} (act : Act host q k.t _ p' s')
      (phase : k.Phase host b (⟨q, k.t⟩ :: past) [] s') : k.Goes host b past [] q p :=
    goes_still at_t next (fun _ _ => rfl) act phase
  cases found : q.directory.get? (b.handleOf k.js) with
  | none =>
    exact goes (.findClosed rfl found) (.answered (.gone (.now at_t) found) fun _ => quiet)
  | some e =>
    obtain rfl := finds e found
    have here : k.Found b (⟨q, k.t⟩ :: past) ⟨q, k.t⟩ := ⟨.now at_t, found⟩
    cases hn : k.name.isEmpty with
    | true =>
      exact goes (.findUnnamed rfl found hn) (.answered (.unnamed here hn) fun _ => quiet)
    | false =>
      cases hc : k.contract.check (host.facets q.memory k.object) with
      | error refusal =>
        exact goes (.findRefused rfl found hn hc) (.answered (.refused here hn hc) fun _ => quiet)
      | ok roster =>
        exact goes (.findBind rfl found hn hc) (.lock quiet ⟨⟨_, here, hc⟩, hn⟩)

theorem goes_lock (quiet : k.Quiet past) (accepted : k.Accepted host b past roster)
    (at_t : q.threads[k.t.index]? = some (k.staged (.lock (k.underway roster))))
    (next : q.step? host k.t = some p) : k.Goes host b past [] q p := by
  obtain ⟨s, p', s', at_t', act, -⟩ := step?_eq_some_iff.1 next
  obtain rfl := Option.some.inj (at_t.symm.trans at_t')
  have hs' := act.of_lock rfl
  subst hs'
  exact goes_still at_t next (fun _ _ => rfl) act
    (.check (quiet.cons at_t rfl fun _ => rfl) accepted.cons)

theorem goes_check (quiet : k.Quiet past) (accepted : k.Accepted host b past roster)
    (at_t : q.threads[k.t.index]? = some (k.staged (.check (k.underway roster))))
    (kept : q.Kept k.entry) (next : q.step? host k.t = some p) : k.Goes host b past [] q p := by
  obtain ⟨x, hx⟩ := kept.exists_entry at_t (holds_staged (if_pos rfl))
  cases hc : x.engine with
  | none =>
    refine goes_still at_t next (fun y hy => ?_) (.checkReleased rfl hx hc)
      (.released (quiet.cons at_t rfl fun _ => rfl) accepted.cons (.now at_t) hx hc)
    obtain rfl := Option.some.inj (hx.symm.trans hy)
    simp [underway, Stage.move?, hc]
  | some c =>
    have live : x.engine.isSome := by rw [hc]; rfl
    refine goes_of_act at_t next (.check rfl hx hc)
      (.enter ⟨accepted.cons, _, x, .now at_t, hx, live, rfl⟩) ?_
    rw [deed?_staged at_t, hx]
    simp [underway, Stage.move?, hc, prepares]

theorem goes_enter (begun : k.Begun host b past roster binding)
    (at_t : q.threads[k.t.index]? = some (k.staged (.enter (k.underway roster) (some binding))))
    (next : q.step? host k.t = some p) : k.Goes host b past [k.prepares roster] q p := by
  obtain ⟨s, p', s', at_t', act, -⟩ := step?_eq_some_iff.1 next
  obtain rfl := Option.some.inj (at_t.symm.trans at_t')
  obtain ⟨direct, c, hs'⟩ := act.of_enter rfl
  subst hs'
  exact goes_still at_t next (fun _ _ => rfl) act (.work begun.cons fun a ha => ha)

theorem goes_work {x : Activity E.Context (Except Failure Unit)}
    (begun : k.Begun host b past roster binding)
    (yields : ∀ a, x.Yields a → (E.install binding c).Yields a)
    (at_t : q.threads[k.t.index]? = some
      (k.staged (.work (k.work roster direct binding) (x.map installed))))
    (next : q.step? host k.t = some p) : k.Goes host b past [k.prepares roster] q p := by
  cases x with
  | done a c' =>
    exact goes_still at_t next (fun _ _ => rfl) (.workDone rfl)
      (.leave begun.cons (yields a (.done a c')))
  | call target args c' resume =>
    have yields answer c'' a (ha : (resume answer c'').Yields a) :
        (E.install binding c).Yields a := yields a (.call ha)
    cases gate : (q.boardOf k.entry).route target args with
    | error fault =>
      exact goes_still at_t next (fun _ _ => rfl) (.workRefused rfl gate)
        (.work begun.cons (yields (.error fault) c'))
    | ok i =>
      exact goes_still at_t next (fun _ _ => rfl) (.workCall rfl gate)
        (.inside begun.cons yields (Thread.inside_of_calls rfl rfl))

theorem goes_inside {invocation : Invocation}
    {resume : Answer → E.Context → Activity E.Context (Except Failure Unit)}
    (begun : k.Begun host b past roster binding)
    (yields : ∀ answer c' a, (resume answer c').Yields a → (E.install binding c).Yields a)
    (inside : s.Inside ⟨k.work roster direct binding, invocation,
      fun answer c => (resume answer c).map installed⟩ k.th.calls k.th.active)
    (at_t : q.threads[k.t.index]? = some s) (next : q.step? host k.t = some p) :
    k.Goes host b past [k.prepares roster] q p := by
  obtain ⟨s₀, p', s', at_t', act, -⟩ := step?_eq_some_iff.1 next
  obtain rfl := Option.some.inj (at_t.symm.trans at_t')
  have still : [k.prepares roster] ++ (k.deed? ⟨q, k.t⟩).toList = [k.prepares roster] := by
    rw [deed?_inside at_t inside]
    rfl
  rcases act.inside inside with inside | ⟨outcome, c', hs'⟩
  · exact goes_of_act at_t next act (.inside begun.cons yields inside) still
  · subst hs'
    exact goes_of_act at_t next act (.work begun.cons (yields _ c')) still

theorem goes_publish (begun : k.Begun host b past roster binding)
    (yields : (E.install binding c).Yields a)
    (at_t : q.threads[k.t.index]? = some
      (k.staged (.publish (k.work roster direct binding) (installed a))))
    (kept : q.Kept k.entry) (next : q.step? host k.t = some p) :
    k.Goes host b past [k.prepares roster] q p := by
  have left : k.Left (⟨q, k.t⟩ :: past) roster binding a := ⟨_, direct, .now at_t⟩
  obtain ⟨x, hx⟩ := kept.exists_entry at_t (holds_staged (if_pos rfl))
  cases a with
  | error failure =>
    refine goes_still at_t next (fun y _ => ?_) (.publishNothing rfl (.inr (.inr ⟨_, rfl⟩)))
      (.finish begun.cons yields left)
    rw [move?_publish]
    rfl
  | ok y =>
    refine goes_of_act at_t next (.publish rfl hx rfl rfl) (.finish begun.cons yields left) ?_
    rw [deed?_staged at_t, hx, Option.bind_some, move?_publish]
    rfl

theorem goes_finish (begun : k.Begun host b past roster binding)
    (yields : (E.install binding c).Yields a) (left : k.Left past roster binding a)
    (at_t : q.threads[k.t.index]? = some (k.staged (.finish (k.underway roster) (installed a))))
    (kept : q.Kept k.entry) (next : q.step? host k.t = some p) :
    k.Goes host b past (k.prepares roster :: commits binding a) q p := by
  obtain ⟨x, hx⟩ := kept.exists_entry at_t (holds_staged (if_pos rfl))
  have still (y : Entry E.Context) (_ : q.entry? k.entry = some y) :
      (Stage.move? k.entry y (.finish (k.underway roster) (installed a))).filter (· ≠ .clear)
        = none := by
    simp only [Stage.move?]
    split_ifs <;> rfl
  cases hl : x.last with
  | false =>
    exact goes_still at_t next still (.finish rfl hx hl) (.unlock begun.cons yields left.cons)
  | true =>
    exact goes_still at_t next still (.finishLast rfl hx hl) (.unlock begun.cons yields left.cons)

theorem goes_unlock (begun : k.Begun host b past roster binding)
    (yields : (E.install binding c).Yields a) (left : k.Left past roster binding a)
    (at_t : q.threads[k.t.index]? = some (k.staged (.unlock (k.underway roster) (installed a))))
    (next : q.step? host k.t = some p) :
    k.Goes host b past (k.prepares roster :: commits binding a) q p := by
  refine goes_still at_t next (fun _ _ => rfl) (.unlock rfl) ?_
  cases a with
  | error failure =>
    exact .answered (.failed begun.cons yields left.cons) fun h => absurd h (List.cons_ne_nil _ _)
  | ok y =>
    exact .answered (.bound begun.cons yields left.cons) fun h => absurd h (List.cons_ne_nil _ _)

end Goes

/-- A step of the thread takes the bind on. -/
theorem Phase.step (phase : k.Phase host b past ds s) (at_t : q.threads[k.t.index]? = some s)
    (finds : ∀ {e}, s = k.staged (k.lookup b) → q.directory.get? (b.handleOf k.js) = some e →
      e = k.entry) (kept : q.Kept k.entry)
    (next : q.step? host k.t = some p) (running : ¬ k.Back q) : k.Goes host b past ds q p := by
  cases phase with
  | find quiet => exact goes_find quiet at_t (fun e => finds rfl) next
  | lock quiet accepted => exact goes_lock quiet accepted at_t next
  | check quiet accepted => exact goes_check quiet accepted at_t kept next
  | released quiet accepted here entry gone =>
    exact goes_still at_t next (fun _ _ => rfl) (.unlock rfl)
      (.answered (.released accepted.cons here.cons entry gone)
        fun _ => quiet.cons at_t rfl fun _ => rfl)
  | enter begun => exact goes_enter begun at_t next
  | work begun yields => exact goes_work begun yields at_t next
  | inside begun yields inside => exact goes_inside begun yields inside at_t next
  | leave begun yields =>
    exact goes_still at_t next (fun _ _ => rfl) (.leave rfl) (.publish begun.cons yields)
  | publish begun yields => exact goes_publish begun yields at_t kept next
  | finish begun yields left => exact goes_finish begun yields left at_t kept next
  | unlock begun yields left => exact goes_unlock begun yields left at_t next
  | answered => exact absurd ⟨_, at_t, rfl, rfl⟩ running

theorem Phase.deep_of_destroy (phase : k.Phase host b past ds s) {e : EntryId}
    {back : Program σ MethodResult} (stage : s.stage = .destroy e back) :
    k.th.calls.length < s.calls.length := by
  cases phase with
  | inside begun yields inside => exact inside.length_lt
  | _ => cases stage

/-- Only as the last operation of a closed entry a bind clears the board. -/
theorem Phase.last_of_clear (phase : k.Phase host b past ds s)
    (depth : s.calls.length = k.th.calls.length) (move : s.stage.move? k.entry x = some .clear) :
    x.last = true ∧ s.inside k.entry = k.th.waiting k.entry + 1 := by
  cases phase with
  | inside begun yields inside => exact absurd depth (Nat.ne_of_gt inside.length_lt)
  | finish begun yields =>
    refine ⟨?_, Nat.add_comm .. ▸ by simp [staged, underway]⟩
    by_contra hl
    simp [staged, Stage.move?, hl] at move
  | check quiet accepted =>
    simp only [staged, underway, Stage.move?] at move
    split_ifs at move
    cases move
  | @publish roster binding direct c a begun yields =>
    rw [staged, move?_publish] at move
    cases a <;> cases move
  | _ => cases move

theorem Phase.answered_of_back (phase : k.Phase host b past ds s)
    (at_t : q.threads[k.t.index]? = some s) (back : k.Back q) :
    ∃ r, s = k.staged (.host (k.next r)) ∧ k.Answers host b past r ds ∧
      (ds = [] → k.Quiet past) := by
  obtain ⟨s', at_t', depth, stage⟩ := back
  obtain rfl := Option.some.inj (at_t.symm.trans at_t')
  cases phase with
  | answered answer quiet => exact ⟨_, rfl, answer, quiet⟩
  | inside begun yields inside => exact absurd depth (Nat.ne_of_gt inside.length_lt)
  | _ => cases stage

end Step

/-! ### A bind in a run -/

/-- The bind is asked for in the step from `b`; in the moments after it the thread was not back in
host code, and in `d` it is. If it has found an entry, then that of `k`. -/
structure Asked (host : Host σ) (b b' d : Process E σ) (within : List (Moment E σ)) : Prop where
  at_t : b.threads[k.t.index]? = some k.th
  stage : k.th.stage = .host (.ask (.use k.js (.bind k.name k.contract k.object)) k.next)
  step : b.step? host k.t = some b'
  run : Run host b' within d
  finds : ∀ m e, k.At within m (k.lookup b) →
    m.process.directory.get? (b.handleOf k.js) = some e → e = k.entry
  within : ∀ m ∈ within, ¬ k.Back m.process
  back : k.Back d

/-- The moments of a bind up to its last step. -/
def during (b : Process E σ) (within : List (Moment E σ)) : List (Moment E σ) :=
  within ++ [⟨b, k.t⟩]

/-- How far a bind is, and that closes are not of its own doing. -/
structure Progress (host : Host σ) (b q : Process E σ) (past : List (Moment E σ)) : Prop where
  phase : ∃ s, q.threads[k.t.index]? = some s ∧ k.Phase host b past (k.deeds past) s
  closing : ∀ {s x}, q.threads[k.t.index]? = some s → q.entry? k.entry = some x →
    k.th.waiting k.entry = 0 → 0 < s.inside k.entry → x.closing = true → k.ClosedWithin past
  clears : ∀ m ∈ past, k.Owns m → m.move? k.entry = some .clear → k.ClosedWithin past

section Progress

variable {k} {b b' d : Process E σ} {before past within : List (Moment E σ)} {x : Entry E.Context}
  {memory : σ} {programs : List (Program σ MethodResult)}

theorem ClosedWithin.cons {m : Moment E σ} (closed : k.ClosedWithin past) :
    k.ClosedWithin (m :: past) := by
  obtain ⟨m', mem, h⟩ := closed
  exact ⟨m', List.mem_cons_of_mem _ mem, h⟩

theorem Progress.step (progress : k.Progress host b q past)
    (reach : Run host (start E memory programs) before q)
    (finds : ∀ {e}, t = k.t → q.threads[k.t.index]? = some (k.staged (k.lookup b)) →
      q.directory.get? (b.handleOf k.js) = some e → e = k.entry) (next : q.step? host t = some p)
    (running : ¬ k.Back q) :
    k.Progress host b p (⟨q, t⟩ :: past) := by
  obtain ⟨s, at_s, phase⟩ := progress.phase
  obtain ⟨th, p', th', at_t, act, rfl⟩ := step?_eq_some_iff.1 next
  have kept := reach.kept k.entry
  have sound := reach.sound SlotMap.sound_empty
  refine ⟨?_, ?_, ?_⟩
  · rw [deeds_cons]
    by_cases ht : t = k.t
    · subst ht
      exact phase.step at_s (fun h => finds rfl (h ▸ at_s)) kept next running
    · have hdeed : k.deed? ⟨q, t⟩ = none := if_neg fun owns => ht owns.1
      rw [hdeed, Option.toList_none, List.append_nil]
      exact ⟨s, (thread_eq_of_step? next (Ne.symm ht)).trans at_s, phase.cons at_s⟩
  · intro s' y at_s' hy waiting inside closing
    cases hx : q.entry? k.entry with
    | none =>
      obtain ⟨c, rfl⟩ := (act.change sound k.entry).fresh hx hy
      cases closing
    | some x =>
      rcases kept.closing_cases sound act at_t hx hy closing at_s at_s' inside with
        ⟨inside, closing⟩ | ⟨rfl, back, stage⟩
      · exact (progress.closing at_s hx waiting inside closing).cons
      · refine ⟨_, List.mem_cons_self .., rfl, ?_, s, back, at_s, stage⟩
        rw [nesting_eq at_s]
        exact phase.deep_of_destroy stage
  · intro m hm owns move
    rcases List.mem_cons.1 hm with rfl | hm
    · obtain rfl : t = k.t := owns.1
      obtain ⟨x, hx, -⟩ := Option.bind_eq_some_iff.1 move
      rw [Moment.move?_eq hx at_s] at move
      obtain ⟨last, inside⟩ := phase.last_of_clear ((owns_iff at_s).1 owns) move
      have hlast := Entry.last_iff.1 last
      have := (kept.entry hx).depth
      have := le_total (Thread.inside k.entry) at_s
      exact (progress.closing at_s hx (by omega) (by omega) hlast.2).cons
    · exact (progress.clears m hm owns move).cons

theorem Asked.move?_first (asked : k.Asked host b b' d within) (e : EntryId) :
    Moment.move? e ⟨b, k.t⟩ = none := by
  cases hx : b.entry? e with
  | none =>
    unfold Moment.move?
    rw [hx]
    rfl
  | some x =>
    rw [Moment.move?_eq hx asked.at_t, asked.stage]
    rfl

theorem Asked.deed?_first (asked : k.Asked host b b' d within) : k.deed? ⟨b, k.t⟩ = none := by
  unfold deed?
  rw [asked.move?_first]
  split_ifs <;> rfl

theorem Asked.first (asked : k.Asked host b b' d within) : k.Progress host b b' [⟨b, k.t⟩] := by
  have quiet : k.Quiet [⟨b, k.t⟩] := by
    intro m hm s hs
    obtain rfl := List.mem_singleton.1 hm
    obtain rfl := Option.some.inj (asked.at_t.symm.trans hs)
    exact ⟨rfl, fun e => by rw [asked.stage]; rfl⟩
  have nothing : k.deeds [⟨b, k.t⟩] = [] := by
    unfold deeds
    rw [List.filterMap_cons_none asked.deed?_first]
    rfl
  have clears : ∀ m ∈ [(⟨b, k.t⟩ : Moment E σ)], k.Owns m → m.move? k.entry = some .clear →
      k.ClosedWithin [⟨b, k.t⟩] := by
    intro m hm _ move
    obtain rfl := List.mem_singleton.1 hm
    rw [asked.move?_first] at move
    cases move
  have goes {p' stage} (act : Act host b k.t k.th p' (k.staged stage))
      (outside : stage.inside k.entry = 0)
      (phase : k.Phase host b [⟨b, k.t⟩] [] (k.staged stage)) :
      k.Progress host b b' [⟨b, k.t⟩] := by
    have at_t : b'.threads[k.t.index]? = some (k.staged stage) := by
      rw [act.eq_of_step? asked.at_t asked.step]
      exact getElem?_setThread_self (act.threads ▸ asked.at_t)
    refine ⟨⟨_, at_t, nothing ▸ phase⟩, fun {s x} at_s _ waiting inside _ => ?_, clears⟩
    obtain rfl := Option.some.inj (at_t.symm.trans at_s)
    have : (k.staged stage).inside k.entry
        = stage.inside k.entry + k.th.waiting k.entry := rfl
    omega
  cases hn : (b.handleOf k.js).isNull with
  | false => exact goes (.use asked.stage hn nofun) rfl (.find quiet)
  | true =>
    exact goes (.useClosed asked.stage hn) rfl (.answered (.closed hn) fun _ => quiet)

theorem Asked.progress (asked : k.Asked host b b' d within)
    (reach : Run host (start E memory programs) before b) :
    k.Progress host b d (k.during b within) := by
  have key : ∀ {past q}, Run host b' past q → (∀ m ∈ past, m ∈ within) →
      k.Progress host b q (past ++ [⟨b, k.t⟩]) := by
    intro past q run
    induction run with
    | refl => exact fun _ => asked.first
    | @step past q r t run next ih =>
      intro sub
      have mem : ⟨q, t⟩ ∈ within := sub _ (List.mem_cons_self ..)
      have toQ := (Run.refl.step asked.step).trans run
      exact (ih fun m hm => sub m (List.mem_cons_of_mem _ hm)).step (reach.trans toQ)
        (fun own at_t => asked.finds _ _ ⟨mem, own, at_t⟩) next (asked.within _ mem)
  exact key asked.run fun m hm => hm

theorem Asked.toRun (asked : k.Asked host b b' d within) : Run host b (k.during b within) d :=
  (Run.refl.step asked.step).trans asked.run

end Progress

/-! ### What a bind leaves -/

section Left

variable {k} {b b' d : Process E σ} {before past within : List (Moment E σ)} {roster : Roster}
  {binding : Binding} {memory : σ} {programs : List (Program σ MethodResult)}

/-- A move is made by the bind or by others. -/
theorem deed?_or_other? (k : BindRequest E σ) (m : Moment E σ) :
    k.deed? m = m.move? k.entry ∧ k.other? m = none ∨
      k.deed? m = none ∧ k.other? m = m.move? k.entry := by
  unfold other?
  cases hd : k.deed? m with
  | none => exact Or.inr ⟨rfl, rfl⟩
  | some move =>
    refine Or.inl ⟨?_, rfl⟩
    unfold deed? at hd
    split_ifs at hd
    exact (Option.filter_eq_some_iff.1 hd).1.symm

/-- Of two parts of a list one has nothing of a sort. Then the other has all of it. -/
theorem filter_eq_of_parts {α β : Type} {f g h : α → Option β} {l : List α}
    (parts : ∀ a, f a = h a ∧ g a = none ∨ f a = none ∧ g a = h a) (sort : β → Bool)
    (nothing : (l.filterMap f).reverse.filter sort = []) :
    (l.filterMap h).reverse.filter sort = (l.filterMap g).reverse.filter sort := by
  rw [List.filter_reverse, List.filter_filterMap] at nothing ⊢
  rw [List.filter_reverse, List.filter_filterMap]
  refine congrArg List.reverse (List.filterMap_congr fun a ha => ?_)
  have none_of_sort := List.filterMap_eq_nil_iff.1 (List.reverse_eq_nil_iff.1 nothing) a ha
  rcases parts a with ⟨hf, hg⟩ | ⟨-, hg⟩
  · rw [← hf, none_of_sort, hg]
    rfl
  · rw [hg]

/-- Where the bind makes no move of a sort, all moves of this sort are made by others. -/
theorem filter_moves_eq_others (sort : Move → Bool) (nothing : (k.deeds past).filter sort = []) :
    (moves k.entry past).filter sort = (k.others past).filter sort :=
  filter_eq_of_parts k.deed?_or_other? sort nothing

theorem filter_moves_eq_deeds (sort : Move → Bool) (nothing : (k.others past).filter sort = []) :
    (moves k.entry past).filter sort = (k.deeds past).filter sort :=
  filter_eq_of_parts (fun m => (k.deed?_or_other? m).symm.imp And.symm And.symm) sort nothing

theorem moves_eq_others (nothing : k.deeds past = []) : moves k.entry past = k.others past := by
  have key := filter_moves_eq_others (fun _ => true) (by rw [nothing]; rfl)
  rwa [List.filter_true, List.filter_true] at key

/-- A binding that the engine has failed to install is not published. -/
theorem Left.not_published {failure : Failure}
    (left : k.Left past roster binding (.error failure))
    (reach : Run host (start E memory programs) before b) (run : Run host b past d) :
    ∀ c ∈ (d.boardOf k.entry).published, c.id ≠ binding.id := by
  obtain ⟨m, direct, mem, own, at_t⟩ := left
  obtain ⟨before', r, after, toM, next, later, -⟩ := run.split_step mem
  rw [own] at next
  exact (reach.trans toM).not_published_of_failed at_t rfl (if_pos rfl) next later

/-- The entry that is found is the one that came to be with the interpreter. -/
theorem Found.entry_eq {m : Moment E σ} (found : k.Found b past m)
    (reach : Run host (start E memory programs) before b) (run : Run host b past d)
    (room : d.directory.slots.size ≤ 2 ^ 32) : k.entry = ⟨k.js.index⟩ := by
  obtain ⟨before', after, toM, later, -⟩ := run.split found.mem
  have live : (b.handleOf k.js).isNull = false := by
    by_contra null
    have null := (Handle.isNull_iff _).1 (Bool.not_eq_false _ ▸ null)
    have nothing := ((reach.trans toM).sound SlotMap.sound_empty).get?_null
    rw [← null, found.found] at nothing
    cases nothing
  rcases (reach.owned_handleOf live toM (Nat.le_trans later.size_le room)).get? with own | none
  · exact Option.some.inj (found.found.symm.trans own)
  · rw [found.found] at none
    cases none

/-- A bind that is refused or finds the interpreter closed makes no move. -/
theorem Answers.deeds_eq_nil {r : Except BridgeFault Unit} {ds : List Move}
    (answer : k.Answers host b past r ds)
    (refused : r = .error .closed ∨ ∃ refusal, r = .error (.bind refusal)) : ds = [] := by
  cases answer with
  | failed | bound => simp at refused
  | _ => rfl

/-- A bind that fails makes no move that shows. -/
theorem Answers.filter_shows {fault : BridgeFault} {ds : List Move}
    (answer : k.Answers host b past (.error fault) ds) : ds.filter Move.shows = [] := by
  cases answer <;> rfl

/-- A bind that succeeds publishes its binding. -/
theorem Answers.published {old new : Switchboard} {ds : List Move}
    (answer : k.Answers host b past (.ok ()) ds)
    (moved : new.published = (old.after (ds.filter Move.shows)).published) :
    ∃ roster binding, k.Begun host b past roster binding ∧
      (∀ name, new.get? name = if k.name = name then some binding else old.get? name) ∧
      ∀ name, name ∈ new.names ↔ name = k.name ∨ name ∈ old.names := by
  cases answer with
  | @bound roster binding c begun succeeds left =>
    obtain ⟨m, x, -, -, -, made⟩ := begun.live
    have name_eq : binding.name = k.name := by rw [made]; rfl
    have get?_eq (name : String) :
        new.get? name = if k.name = name then some binding else old.get? name := by
      rw [← name_eq, ← Switchboard.get?_commit]
      exact congrArg (List.find? _) moved
    refine ⟨roster, binding, begun, get?_eq, fun name => ?_⟩
    rw [Switchboard.mem_names_iff, Switchboard.mem_names_iff, get?_eq]
    by_cases h : k.name = name
    · simp [h]
    · simp [h, Ne.symm h]

/-- A bind gets one of `Answers`. If this is an error, then what is published is what was published
before and what others made of that: methods called by the engine, or other threads before the bind
had the lock. A bind that is refused enters no engine and makes no binding. The binding of a bind
that succeeds is published under its name in place of any other. -/
theorem bind_answered (asked : k.Asked host b b' d within)
    (reach : Run host (start E memory programs) before b) :
    let past := k.during b within
    let old := b.boardOf k.entry
    let new := d.boardOf k.entry
    ∃ r, d.threads[k.t.index]? = some (k.staged (.host (k.next r))) ∧
      k.Answers host b past r (k.deeds past) ∧
      (∀ fault, r = .error fault → new.published = (old.after (k.others past)).published) ∧
      ((r = .error .closed ∨ ∃ refusal, r = .error (.bind refusal)) →
        k.Quiet past ∧ new = old.after (k.others past)) ∧
      (∀ roster binding failure, k.Left past roster binding (.error failure) →
        ∀ c ∈ new.published, c.id ≠ binding.id) ∧
      (r = .ok () → (k.others past).filter Move.shows = [] →
        ∃ roster binding, k.Begun host b past roster binding ∧
          (∀ name, new.get? name = if k.name = name then some binding else old.get? name) ∧
          ∀ name, name ∈ new.names ↔ name = k.name ∨ name ∈ old.names) ∧
      (∀ m ∈ past, k.Owns m → m.move? k.entry = some .clear → k.ClosedWithin past) ∧
      (∀ m ∈ past, m.thread ≠ k.t → (m.move? k.entry).isSome →
        ∀ s, m.process.threads[k.t.index]? = some s → s.holds k.entry = 0) ∧
      (d.directory.slots.size ≤ 2 ^ 32 → ∀ m, k.Found b past m → k.entry = ⟨k.js.index⟩) := by
  intro past old new
  have progress := asked.progress reach
  have run := asked.toRun
  obtain ⟨s, at_t, phase⟩ := progress.phase
  obtain ⟨r, rfl, answer, quiet⟩ := phase.answered_of_back at_t asked.back
  have board : new = old.after (moves k.entry past) :=
    run.boardOf_after (reach.sound SlotMap.sound_empty) k.entry
  have published :
      new.published = (old.after ((moves k.entry past).filter Move.shows)).published := by
    rw [board, Switchboard.published_after]
  refine ⟨r, at_t, answer, ?_, ?_, fun _ _ _ left => left.not_published reach run, ?_,
    progress.clears, ?_, fun room m found => found.entry_eq reach run room⟩
  · rintro fault rfl
    rw [published, filter_moves_eq_others _ answer.filter_shows, ← Switchboard.published_after]
  · intro refused
    have nothing := answer.deeds_eq_nil refused
    exact ⟨quiet nothing, by rw [board, moves_eq_others nothing]⟩
  · rintro rfl nothing
    exact answer.published (by rw [published, filter_moves_eq_deeds _ nothing])
  · intro m hm other move s at_s
    obtain ⟨before', after, toM, -, -⟩ := run.split hm
    obtain ⟨move, hmove⟩ := Option.isSome_iff_exists.1 move
    exact (reach.trans toM).move_locked hmove at_s (Ne.symm other)

end Left

/-- A host that binds a name again. -/
def rebind : Process .frozen Unit :=
  start .frozen ()
    [.ask (.create default) fun _ =>
      .ask (.use ⟨0⟩ (.bind "door" ⟨"Door", false, [], []⟩ ⟨0⟩)) fun _ =>
      .ask (.use ⟨0⟩ (.bind "door" ⟨"Door", false, [], []⟩ ⟨1⟩)) fun _ => .done (.ok .void)]

/-- The engine does not let the name be bound again: what was bound first stays published. -/
theorem bind_answered_frozen :
    ∃ (b b' d : Process .frozen Unit) (within : List (Moment .frozen Unit)) (first : Binding),
      rebind.follow closer (List.replicate 11 ⟨0⟩) = some b ∧ Run closer b' within d ∧
      (b.boardOf ⟨0⟩).published = [first] ∧ (d.boardOf ⟨0⟩).published = [first] := by
  obtain ⟨b, b', d, th, next, first, reached, at_t, stage, step, run, finds, running, back, board,
      deeds, others⟩ :
      ∃ (b b' d : Process .frozen Unit) (th : Thread Engine.frozen.Context Unit)
        (next : Except BridgeFault Unit → Program Unit MethodResult) (first : Binding),
        let k : BindRequest .frozen Unit :=
          ⟨⟨0⟩, th, ⟨0⟩, ⟨0⟩, "door", ⟨"Door", false, [], []⟩, ⟨1⟩, next⟩
        let within := b'.moments closer (List.replicate 9 ⟨0⟩)
        rebind.follow closer (List.replicate 11 ⟨0⟩) = some b ∧ b.threads[0]? = some th ∧
        th.stage = .host (.ask (.use k.js (.bind k.name k.contract k.object)) next) ∧
        b.step? closer ⟨0⟩ = some b' ∧ b'.follow closer (List.replicate 9 ⟨0⟩) = some d ∧
        (∀ m ∈ within, m.process.directory.get? (b.handleOf ⟨0⟩) = some ⟨0⟩) ∧
        (∀ m ∈ within, ¬ k.Back m.process) ∧ k.Back d ∧
        (b.boardOf ⟨0⟩).published = [first] ∧
        k.deeds (k.during b within) = [k.prepares ⟨"Door", []⟩] ∧
        k.others (k.during b within) = [] :=
    ⟨_, _, _, _, _, _, rfl, rfl, rfl, rfl, rfl, by decide, by decide, by decide, rfl, rfl, rfl⟩
  let k : BindRequest .frozen Unit :=
    ⟨⟨0⟩, th, ⟨0⟩, ⟨0⟩, "door", ⟨"Door", false, [], []⟩, ⟨1⟩, next⟩
  have asked : k.Asked closer b b' d (b'.moments closer (List.replicate 9 ⟨0⟩)) :=
    ⟨at_t, stage, step, .of_follow run,
      fun m e here found => Option.some.inj (found.symm.trans (finds m here.mem)), running, back⟩
  obtain ⟨r, -, answer, unchanged, -⟩ := bind_answered asked (.of_follow reached)
  rw [deeds] at answer
  cases answer with
  | failed =>
    have key := unchanged _ rfl
    rw [others] at key
    exact ⟨b, b', d, _, first, reached, .of_follow run, board, key.trans board⟩

end BindRequest

end Process

end Drawbridge
