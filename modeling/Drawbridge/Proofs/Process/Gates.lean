import Drawbridge.Proofs.Process.HostCalls

/-!
# Locks of engines

An engine has a lock of its own, the gate, that a thread cannot take twice.  A thread that is inside
an engine and comes back to it through a call of the host is let in without: the works of a thread
lie one within another, and the outermost one on an engine has its gate (`Layered`).  By `Run.gated`
a gate is with the thread that is inside, so the list of active entries tells a thread whether it
has it (`gate_taken_once`).
-/

namespace Drawbridge

variable {C : Type} {E : Engine} {σ : Type}

/-! ## Works of a thread -/

/-- The work of a stage that is inside an engine. -/
def Stage.work? : Stage C σ → Option (Work C σ)
  | .work w _ | .leave w _ => some w
  | _ => none

/-- The works of a thread that are inside engines, innermost first. -/
def Thread.works (th : Thread C σ) : List (Work C σ) :=
  th.stage.work?.toList ++ th.calls.map (·.work)

/-- The entries of works. -/
def entriesOf (works : List (Work C σ)) : List EntryId := works.map (·.underway.entry)

theorem mem_entriesOf_cons {e : EntryId} {w : Work C σ} {works : List (Work C σ)} :
    e ∈ entriesOf (w :: works) ↔ e = w.underway.entry ∨ e ∈ entriesOf works := List.mem_cons

/-- Of works that lie one within another, innermost first, each was let in without the gate just if
one further out is on the same entry. -/
def Layered : List (Work C σ) → Prop
  | [] => True
  | w :: rest => (w.direct = true ↔ w.underway.entry ∈ entriesOf rest) ∧ Layered rest

/-- The active entries of a thread are those of its calls in progress, and its works are layered. -/
structure Thread.Nested (th : Thread C σ) : Prop where
  active : th.active = entriesOf (th.calls.map (·.work))
  layered : Layered th.works

/-- One work on each entry that there is any work on has taken the gate. -/
theorem Layered.mem_entriesOf_iff {works : List (Work C σ)} (layered : Layered works)
    (e : EntryId) :
    e ∈ entriesOf works ↔ ∃ w ∈ works, w.underway.entry = e ∧ w.direct = false := by
  constructor
  · intro he
    induction works with
    | nil => cases he
    | cons w rest ih =>
      by_cases outer : e ∈ entriesOf rest
      · obtain ⟨w', hw', h⟩ := ih layered.2 outer
        exact ⟨w', List.mem_cons_of_mem _ hw', h⟩
      · obtain rfl : e = w.underway.entry := (List.mem_cons.1 he).resolve_right outer
        exact ⟨w, List.mem_cons_self .., rfl, Bool.eq_false_iff.2 (mt layered.1.1 outer)⟩
  · rintro ⟨w, hw, rfl, -⟩
    exact List.mem_map_of_mem hw

theorem Layered.countP_le_one {works : List (Work C σ)} (layered : Layered works) (e : EntryId) :
    works.countP (fun w => w.underway.entry = e ∧ w.direct = false) ≤ 1 := by
  induction works with
  | nil => exact Nat.zero_le _
  | cons w rest ih =>
    rw [List.countP_cons]
    split_ifs with taken
    · obtain ⟨rfl, free⟩ : w.underway.entry = e ∧ w.direct = false := by simpa using taken
      -- the innermost work took the gate, so none further out is on the entry
      have outer : w.underway.entry ∉ entriesOf rest := fun h => by
        rw [layered.1.2 h] at free
        cases free
      rw [List.countP_eq_zero.2]
      intro w' hw'
      simp only [decide_eq_true_eq, not_and]
      exact fun same => absurd (same ▸ List.mem_map_of_mem hw') outer
    · exact ih layered.2

section Thread

variable {th : Thread C σ} {e : EntryId}

theorem Thread.works_eq (outside : th.stage.work? = none) : th.works = th.calls.map (·.work) := by
  unfold works
  rw [outside]
  rfl

theorem Thread.inside_of_works (h : e ∈ entriesOf th.works) : 0 < th.inside e := by
  obtain ⟨w, hw, rfl⟩ := List.mem_map.1 h
  rcases List.mem_append.1 hw with hw | hw
  · refine Nat.add_pos_left ?_ _
    cases stage : th.stage <;> simp_all [Stage.work?]
  · obtain ⟨call, hcall, rfl⟩ := List.mem_map.1 hw
    exact Nat.add_pos_right _ (List.countP_pos_iff.2 ⟨call, hcall, by simp⟩)

theorem Thread.Nested.mem_active_iff (nested : th.Nested) (outside : th.stage.work? = none) :
    e ∈ th.active ↔ e ∈ entriesOf th.works := by
  rw [nested.active, Thread.works_eq outside]

end Thread

namespace Process

variable {host : Host σ} {p q p' : Process E σ} {t : ThreadId} {th th' : Thread E.Context σ}
  {e : EntryId}

/-- The thread that has the gate of an entry. -/
def gateOf (p : Process E σ) (e : EntryId) : Option ThreadId := (p.entry? e).bind (·.gate)

theorem gateOf_eq {x : Entry E.Context} (hx : p.entry? e = some x) : p.gateOf e = x.gate := by
  unfold gateOf
  rw [hx]
  rfl

theorem gateOf_modifyEntry {f : Entry E.Context → Entry E.Context}
    (same : ∀ x, (f x).gate = x.gate) : (p.modifyEntry e f).gateOf = p.gateOf := by
  funext e'
  unfold gateOf
  rw [entry?_modifyEntry]
  split_ifs
  · cases p.entry? e' with
    | none => rfl
    | some x => exact same x
  · rfl

theorem gateOf_modifyEntry_update {f : Entry E.Context → Entry E.Context} {g : Option ThreadId}
    (hg : (p.entry? e).bind (fun x => (f x).gate) = g) :
    (p.modifyEntry e f).gateOf = Function.update p.gateOf e g := by
  funext e'
  unfold gateOf
  rw [entry?_modifyEntry, Function.update_apply]
  split_ifs with h
  · rw [h, ← hg]
    cases p.entry? e <;> rfl
  · rfl

/-- What an action does to the works of its thread and to the gates. -/
inductive WorksStep (t : ThreadId) (th th' : Thread E.Context σ)
    (gates gates' : EntryId → Option ThreadId) : Prop
  | keep (works : th'.works = th.works) (same : gates' = gates)
  | enterWithin {w} (works : th'.works = w :: th.works) (direct : w.direct = true)
      (active : w.underway.entry ∈ th.active) (outside : th.stage.work? = none)
      (same : gates' = gates)
  | take {w} (works : th'.works = w :: th.works) (direct : w.direct = false)
      (active : w.underway.entry ∉ th.active) (outside : th.stage.work? = none)
      (free : gates w.underway.entry = none)
      (taken : gates' = Function.update gates w.underway.entry (some t))
  | leaveWithin {w} (works : th.works = w :: th'.works) (direct : w.direct = true)
      (same : gates' = gates)
  | give {w} (works : th.works = w :: th'.works) (direct : w.direct = false)
      (given : gates' = Function.update gates w.underway.entry none)

theorem Act.worksStep (act : Act host p t th p' th') :
    WorksStep t th th' p.gateOf p'.gateOf := by
  have outside (calls : th'.calls = th.calls) (stage : th.stage.work? = none)
      (stage' : th'.stage.work? = none) (same : p'.gateOf = p.gateOf) :
      WorksStep t th th' p.gateOf p'.gateOf := by
    refine .keep ?_ same
    rw [Thread.works_eq stage, Thread.works_eq stage', calls]
  cases act with
  | @enter u pending x direct x' c stage entry entrance engine =>
    have none : th.stage.work? = none := by rw [stage]; rfl
    have works : th.works = th.calls.map (·.work) := Thread.works_eq none
    rcases entrance?_eq_some entrance with ⟨rfl, active, rfl⟩ | ⟨rfl, active, free, rfl⟩
    · refine .enterWithin (by rw [works]; rfl) rfl active none ?_
      rw [gateOf_modifyEntry_update (g := p.gateOf u.entry) (by rw [gateOf_eq entry, entry]; rfl),
        Function.update_eq_self]
    · exact .take (by rw [works]; rfl) rfl active none ((gateOf_eq entry).trans free)
        (gateOf_modifyEntry_update (congrArg (Option.bind · _) entry))
  | @leave w r stage =>
    have works : th.works = w :: th.calls.map (·.work) := by
      simp [Thread.works, Stage.work?, stage]
    cases direct : w.direct with
    | true => exact .leaveWithin works direct rfl
    | false =>
      refine .give works direct (gateOf_modifyEntry_update ?_)
      cases p.entry? w.underway.entry <;> rfl
  | resume stage result calling =>
    exact .keep (by simp [Thread.works, Stage.work?, stage, calling]) rfl
  | workRefused stage => exact .keep (by simp [Thread.works, Stage.work?, stage]) rfl
  | workDone stage | workCall stage =>
    exact .keep (by simp [Thread.works, Stage.work?, stage]) (gateOf_modifyEntry fun _ => rfl)
  | create stage =>
    refine outside rfl (by rw [stage]; rfl) rfl (funext fun e => ?_)
    unfold gateOf
    rw [entry?_report, entry?_enroll]
    split_ifs with new
    · rw [new, entry?_size]
      rfl
    · rfl
  | drop stage => exact outside rfl (by rw [stage]; rfl) rfl (by split_ifs <;> rfl)
  | finishLast stage =>
    refine outside rfl (by rw [stage]; rfl) rfl ?_
    rw [modifyEntry_modifyEntry]
    exact gateOf_modifyEntry fun _ => rfl
  | read stage | write stage | createFailed stage | useClosed stage
  | useDefault stage | use stage | closeAgain stage | close stage | handle stage
  | settings stage | references stage | events stage | findClosed stage | findGlobals stage
  | findEvaluate stage | findCollect stage | findUnnamed stage | findRefused stage
  | findBind stage | names stage | checkReleased stage | publishNothing stage | vacateNone stage
  | vacate stage =>
    exact outside rfl (by rw [stage]; rfl) rfl rfl
  | lock stage | check stage | publish stage | finish stage | unlock stage
  | lockToClose stage | defer stage | destroy stage | unlockClosed stage =>
    exact outside rfl (by rw [stage]; rfl) rfl (gateOf_modifyEntry fun _ => rfl)

theorem Act.nested (act : Act host p t th p' th') (nested : th.Nested) : th'.Nested := by
  refine ⟨?_, ?_⟩
  · have active := nested.active
    rcases act.frames with
      ⟨calls, active'⟩ | ⟨call, calls, active', -⟩ | ⟨call, calls, hcalls, outcome, c, rfl⟩
    · rw [active', calls, active]
    · rw [active', calls, active]
      rfl
    · rw [active, hcalls]
      rfl
  · have layered := nested.layered
    cases act.worksStep with
    | keep works => rwa [works]
    | enterWithin works direct active outside =>
      rw [works]
      exact ⟨iff_of_true direct ((nested.mem_active_iff outside).1 active), layered⟩
    | take works direct active outside =>
      rw [works]
      refine ⟨iff_of_false (by simp [direct]) ?_, layered⟩
      exact fun h => active ((nested.mem_active_iff outside).2 h)
    | leaveWithin works | give works =>
      rw [works] at layered
      exact layered.2

theorem Run.nested {memory : σ} {programs : List (Program σ MethodResult)}
    {past : List (Moment E σ)} (run : Run host (start E memory programs) past p)
    (at_t : p.threads[t.index]? = some th) : th.Nested :=
  run.keeps_thread (fun _ => ⟨rfl, trivial⟩) (fun nested act => act.nested nested) at_t

/-! ## Who has a gate -/

/-- A gate is with a thread just as long as the thread has work on the entry. -/
def Gated (p : Process E σ) : Prop :=
  ∀ e t, p.gateOf e = some t ↔ ∃ th, p.threads[ThreadId.index t]? = some th ∧ e ∈ entriesOf th.works

/-- What an action of a thread makes of its own works suits what it makes of the gates. -/
theorem WorksStep.gated {gates gates' : EntryId → Option ThreadId}
    (step : WorksStep t th th' gates gates') (nested : th.Nested)
    (had : ∀ e, gates e = some t ↔ e ∈ entriesOf th.works) (e : EntryId) :
    (gates' e = some t ↔ e ∈ entriesOf th'.works) ∧
      ∀ s ≠ t, (gates' e = some s ↔ gates e = some s) := by
  have layered := nested.layered
  cases step with
  | keep works same =>
    rw [works, same]
    exact ⟨had e, fun _ _ => Iff.rfl⟩
  | enterWithin works direct active outside same =>
    rw [works, same, had, mem_entriesOf_cons]
    refine ⟨(or_iff_right_of_imp ?_).symm, fun _ _ => Iff.rfl⟩
    rintro rfl
    exact (nested.mem_active_iff outside).1 active
  | take works direct active outside free taken =>
    rw [works, taken, mem_entriesOf_cons, Function.update_apply]
    split_ifs with h
    · subst h
      refine ⟨iff_of_true rfl (Or.inl rfl), fun s hs => ?_⟩
      rw [free]
      exact iff_of_false (fun h => hs (Option.some.inj h).symm) nofun
    · rw [had, or_iff_right h]
      exact ⟨Iff.rfl, fun _ _ => Iff.rfl⟩
  | leaveWithin works direct same =>
    rw [works] at layered
    rw [same, had, works, mem_entriesOf_cons]
    refine ⟨or_iff_right_of_imp ?_, fun _ _ => Iff.rfl⟩
    rintro rfl
    exact layered.1.1 direct
  | @give w works direct given =>
    rw [works] at layered
    have mine : gates w.underway.entry = some t := by
      rw [had, works]
      exact List.mem_cons_self ..
    have outer : w.underway.entry ∉ entriesOf th'.works := fun h => by
      rw [layered.1.2 h] at direct
      cases direct
    rw [given, Function.update_apply]
    split_ifs with h
    · subst h
      refine ⟨iff_of_false nofun outer, fun s hs => ?_⟩
      rw [mine]
      exact iff_of_false nofun fun h => hs (Option.some.inj h).symm
    · rw [had, works, mem_entriesOf_cons, or_iff_right h]
      exact ⟨Iff.rfl, fun _ _ => Iff.rfl⟩

theorem Run.gated {memory : σ} {programs : List (Program σ MethodResult)}
    {past : List (Moment E σ)} (run : Run host (start E memory programs) past p) : p.Gated := by
  induction run with
  | refl =>
    intro e t
    refine iff_of_false nofun ?_
    rintro ⟨th, at_t, he⟩
    obtain ⟨body, rfl⟩ := thread_start at_t
    exact absurd he List.not_mem_nil
  | @step past q r t run next ih =>
    obtain ⟨th, p', th', at_t, act, rfl⟩ := step?_eq_some_iff.1 next
    intro e s
    have had (e : EntryId) : q.gateOf e = some t ↔ e ∈ entriesOf th.works := by
      rw [ih e, at_t]
      simp
    obtain ⟨own, others⟩ := act.worksStep.gated (run.nested at_t) had e
    show gateOf p' e = some s ↔ _
    by_cases hs : s = t
    · subst hs
      rw [own, getElem?_setThread_self (act.threads ▸ at_t)]
      simp
    · rw [others s hs, ih e s, getElem?_setThread_ne hs, act.threads]

section Gate

variable {memory : σ} {programs : List (Program σ MethodResult)} {past : List (Moment E σ)}
  (run : Run host (start E memory programs) past p) (at_t : p.threads[t.index]? = some th)

include run at_t

theorem Run.gateOf_eq_some_iff : p.gateOf e = some t ↔ e ∈ entriesOf th.works := by
  rw [run.gated e t, at_t]
  simp

/-- While a thread has the lock of an entry no other thread has the gate. -/
theorem Run.gateOf_of_holds (holds : 0 < th.holds e) :
    p.gateOf e = none ∨ p.gateOf e = some t := by
  cases gate : p.gateOf e with
  | none => exact Or.inl rfl
  | some s =>
    obtain ⟨ths, at_s, inside⟩ := (run.gated e s).1 gate
    obtain ⟨x, hx⟩ := (run.kept e).exists_entry at_t holds
    by_contra other
    have alone := (run.kept e).alone hx at_t holds at_s fun h => other (Or.inr (congrArg _ h))
    have := Nat.lt_of_lt_of_le (Thread.inside_of_works inside) (Thread.inside_le_holds e ths)
    omega

/-- A thread that has come to an engine goes in: from within if it has the gate already, and
otherwise the gate is there to be taken. -/
theorem Run.enters {u : Underway σ} {pending : Option Binding}
    (stage : th.stage = .enter u pending) :
    ∃ x c direct, p.entry? u.entry = some x ∧ x.engine = some c ∧
      (direct = true ↔ u.entry ∈ th.active) ∧ (direct = true ↔ x.gate = some t) ∧
      (direct = false ↔ x.gate = none) ∧
      p.step? host t = some ((p.modifyEntry u.entry fun x => { x with gate := some t }).setThread t
        { th with stage := .work ⟨u, direct, pending⟩ (begin E u.operation pending c) }) := by
  have holds : 0 < th.holds u.entry := by simp [stage]
  have inside : 0 < th.inside u.entry := by simp [stage]
  obtain ⟨x, hx, unreleased⟩ := run.releases_of_inside at_t inside
  obtain ⟨c, engine⟩ := Option.isSome_iff_exists.1 (((run.kept _).entry hx).engine.2 unreleased)
  have active : u.entry ∈ th.active ↔ x.gate = some t := by
    rw [(run.nested at_t).mem_active_iff (by rw [stage]; rfl), ← run.gateOf_eq_some_iff at_t,
      gateOf_eq hx]
  have gate := run.gateOf_of_holds at_t holds
  rw [gateOf_eq hx] at gate
  rcases gate with gate | gate
  · have out : u.entry ∉ th.active := by simp [active, gate]
    have entrance : entrance? th t u.entry x = some (false, { x with gate := some t }) := by
      simp [entrance?, out, gate]
    have key : p.modifyEntry u.entry (fun _ => { x with gate := some t })
        = p.modifyEntry u.entry fun x => { x with gate := some t } := modifyEntry_congr hx rfl
    refine ⟨x, c, false, hx, engine, by simp [out], by simp [gate], by simp [gate], ?_⟩
    rw [← key]
    exact (Act.enter stage hx entrance engine).step?_eq at_t
  · have entrance : entrance? th t u.entry x = some (true, x) := by
      simp [entrance?, active.2 gate]
    have key : p.modifyEntry u.entry (fun _ => x)
        = p.modifyEntry u.entry fun x => { x with gate := some t } :=
      modifyEntry_congr hx (by rw [← gate])
    refine ⟨x, c, true, hx, engine, by simp [active.2 gate], by simp [gate], by simp [gate], ?_⟩
    rw [← key]
    exact (Act.enter stage hx entrance engine).step?_eq at_t

end Gate

/-- Once a call of the host is over the thread is in the calls that it was in before, and on the
same engines. -/
theorem Dispatch.restores {w : Work E.Context σ} {target : CallTarget} {args : List ScriptValue}
    {c : E.Context}
    {resume : Answer → E.Context →
      Activity E.Context (Except BridgeFault w.underway.operation.Result)}
    {b b' d : Process E σ} {within : List (Moment E σ)}
    (dispatch : Dispatch host t th w target args c resume b b' d within)
    (finished : d.nesting t = th.calls.length) :
    ∃ th', d.threads[t.index]? = some th' ∧ th'.calls = th.calls ∧ th'.active = th.active := by
  rcases (b.boardOf w.underway.entry).admits_or_refuses target args with
    ⟨i, admits, -⟩ | ⟨fault, refuses, -⟩
  · obtain ⟨outcome, c', at_d⟩ := (dispatch.admitted admits).2.2 finished
    exact ⟨_, at_d, rfl, rfl⟩
  · obtain ⟨-, rfl⟩ := dispatch.refused refuses
    exact ⟨_, getElem?_setThread_self dispatch.at_t, rfl, rfl⟩

/-- The gate of an engine is never taken twice and never passed by.  The active entries of a thread
are those of its calls of the host in progress, innermost first, and their engines are there; once a
call is over they are what they were before it.  A thread has the gate of each engine that it works
in, which one of its works there has taken.  As it comes to an engine the entry is active just if
the thread has the gate already, from a call further out, and goes in directly in this case alone;
in the other the gate is free, and it takes it. -/
theorem gate_taken_once {memory : σ} {programs : List (Program σ MethodResult)}
    {past : List (Moment E σ)} (run : Run host (start E memory programs) past p)
    (at_t : p.threads[t.index]? = some th) :
    th.active = th.calls.map (·.work.underway.entry) ∧
    (∀ e ∈ th.active, ∃ x, p.entry? e = some x ∧ x.engine.isSome ∧ x.releases = 0) ∧
    (∀ {w target args c resume b' d within},
      Dispatch host t th w target args c resume p b' d within → d.nesting t = th.calls.length →
      ∃ th', d.threads[t.index]? = some th' ∧ th'.calls = th.calls ∧ th'.active = th.active) ∧
    (∀ w ∈ th.works, ∃ x, p.entry? w.underway.entry = some x ∧ x.gate = some t ∧
      th.works.countP
        (fun w' => w'.underway.entry = w.underway.entry ∧ w'.direct = false) = 1) ∧
    ∀ {u pending}, th.stage = .enter u pending →
      ∃ x c direct, p.entry? u.entry = some x ∧ x.engine = some c ∧
        (u.entry ∈ th.active ↔ x.gate = some t) ∧
        (u.entry ∈ th.active ↔
          ∃ call ∈ th.calls, call.work.underway.entry = u.entry ∧ call.work.direct = false) ∧
        (direct = true ↔ x.gate = some t) ∧ (direct = false ↔ x.gate = none) ∧
        p.step? host t
          = some ((p.modifyEntry u.entry fun x => { x with gate := some t }).setThread t
              { th with stage := .work ⟨u, direct, pending⟩ (begin E u.operation pending c) }) := by
  have nested := run.nested at_t
  refine ⟨?_, fun e he => ?_, fun dispatch finished => dispatch.restores finished, fun w hw => ?_,
    fun {u pending} stage => ?_⟩
  · rw [nested.active, entriesOf, List.map_map]
    rfl
  · have inside : 0 < th.inside e := by
      refine Thread.inside_of_works ?_
      rw [nested.active] at he
      exact List.map_subset _ (List.subset_append_right _ _) he
    obtain ⟨x, hx, unreleased⟩ := run.releases_of_inside at_t inside
    exact ⟨x, hx, ((run.kept e).entry hx).engine.2 unreleased, unreleased⟩
  · have inside : w.underway.entry ∈ entriesOf th.works := List.mem_map_of_mem hw
    have gate := (run.gateOf_eq_some_iff at_t).2 inside
    obtain ⟨x, hx, hgate⟩ := Option.bind_eq_some_iff.1 gate
    refine ⟨x, hx, hgate, Nat.le_antisymm (nested.layered.countP_le_one _) ?_⟩
    obtain ⟨w', hw', taker⟩ := (nested.layered.mem_entriesOf_iff _).1 inside
    exact List.countP_pos_iff.2 ⟨w', hw', by simpa using taker⟩
  · obtain ⟨x, c, direct, hx, engine, active, has, free, step⟩ := run.enters at_t stage
    refine ⟨x, c, direct, hx, engine, active.symm.trans has, ?_, has, free, step⟩
    have works : th.works = th.calls.map (·.work) := Thread.works_eq (by rw [stage]; rfl)
    rw [nested.mem_active_iff (by rw [stage]; rfl), nested.layered.mem_entriesOf_iff, works]
    simp

/-- The first object evaluates on the second interpreter, any other on the first. -/
def pingPong : Host Unit where
  facets _ _ := ⟨fun _ => true, fun _ => true⟩
  invoke object _ _ :=
    .ask (.use (if object = ⟨0⟩ then ⟨1⟩ else ⟨0⟩) (.evaluate "" none)) fun _ => .done (.ok .void)

/-- The scripts of two interpreters call each other through the host. -/
def rally : Process .relay Unit :=
  start .relay ()
    [.ask (.create default) fun _ => .ask (.create default) fun _ =>
      .ask (.use ⟨0⟩ (.bind "ping" ⟨"Door", false, [], [⟨"shut", [], .void⟩]⟩ ⟨0⟩)) fun _ =>
      .ask (.use ⟨1⟩ (.bind "pong" ⟨"Door", false, [], [⟨"shut", [], .void⟩]⟩ ⟨1⟩)) fun _ =>
      .ask (.use ⟨0⟩ (.evaluate "" none)) fun _ => .done (.ok .void)]

/-- Back at the first engine, which called the second, the thread goes in from within. -/
theorem gate_taken_once_rally :
    ∃ (p : Process .relay Unit) (th : Thread Engine.relay.Context Unit) (u : Underway Unit)
      (c : Engine.relay.Context) (x : Entry Engine.relay.Context),
      rally.follow pingPong (List.replicate 38 ⟨0⟩) = some p ∧ p.entry? ⟨0⟩ = some x ∧
      th.active = [⟨1⟩, ⟨0⟩] ∧ x.gate = some ⟨0⟩ ∧
      p.step? pingPong ⟨0⟩
        = some ((p.modifyEntry u.entry fun x => { x with gate := some ⟨0⟩ }).setThread ⟨0⟩
            { th with stage := .work ⟨u, true, none⟩ (begin .relay u.operation none c) }) := by
  obtain ⟨p, th, u, reached, at_t, stage, entry, active⟩ :
      ∃ (p : Process .relay Unit) (th : Thread Engine.relay.Context Unit) (u : Underway Unit),
        rally.follow pingPong (List.replicate 38 ⟨0⟩) = some p ∧ p.threads[0]? = some th ∧
        th.stage = .enter u none ∧ u.entry = ⟨0⟩ ∧ th.active = [⟨1⟩, ⟨0⟩] :=
    ⟨_, _, _, rfl, rfl, rfl, rfl, rfl⟩
  obtain ⟨-, -, -, -, enters⟩ := gate_taken_once (.of_follow reached) (t := ⟨0⟩) at_t
  obtain ⟨x, c, direct, hx, -, has, -, within, -, step⟩ := enters stage
  have gate : x.gate = some ⟨0⟩ := has.1 (by rw [entry, active]; decide)
  obtain rfl := within.2 gate
  exact ⟨p, th, u, c, x, reached, entry ▸ hx, active, gate, step⟩

end Process

end Drawbridge
