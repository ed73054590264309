import Drawbridge.Proofs.Process.Drafts
import Drawbridge.Proofs.Process.Serial
import Drawbridge.Proofs.Script.Collection

/-!
# References to host objects

Who refers to the bindings of an entry: its board, the proxy functions in its engine, and the
operations under way.  Where none is under way a binding is on the board just if it was published
last under its name and the engine was not released (`Run.mem_published_iff`), and nothing else but
proxy functions refers to it (`bridge_holds_exactly`).
-/

namespace Drawbridge

open Switchboard (Latest Move)

variable {C : Type} {E : Engine} {σ : Type}

/-- Of the bindings of each name the first. -/
def newest : List Binding → List Binding
  | [] => []
  | b :: bindings => b :: (newest bindings).filter (·.name ≠ b.name)

/-- A small engine: scripts can reach of each name what was bound last. -/
def Engine.tidy : Engine where
  Context := List Binding
  create? _ := some []
  evaluate _ _ bindings := .done (.ok "") bindings
  install b bindings := .done (.ok ()) (b :: bindings)
  collect bindings := newest bindings
  proxies bindings := newest bindings

/-- The bindings that an entry refers to: one for each place on the board, and one for each proxy
function in the engine, which are those that `present` tells of. -/
def Entry.bindings (present : C → List Binding) (x : Entry C) : List Binding :=
  x.board.published ++ (x.engine.map present).getD []

/-- The bindings that the operations of a thread on `e` refer to. -/
def Thread.bindings (e : EntryId) (th : Thread C σ) : List Binding :=
  th.drafts e ++ (th.calls.filter (·.work.underway.entry = e)).map (·.invocation.binding)

/-- The object of a bind that has made no binding of it so far. -/
def Stage.object? : Stage C σ → Option ObjectId
  | .find _ (.bind _ _ object) _ => some object
  | .lock ⟨_, .bind _ _ object, _⟩ | .check ⟨_, .bind _ _ object, _⟩ => some object
  | _ => none

/-- What is inside the engine of `e` is counted. -/
theorem Thread.bindings_eq_nil {e : EntryId} {th : Thread C σ} (outside : th.inside e = 0) :
    th.bindings e = [] := by
  obtain ⟨stage, calls⟩ : th.stage.inside e = 0 ∧ th.waiting e = 0 := by
    unfold Thread.inside at outside
    omega
  have elsewhere : ∀ call ∈ th.calls, call.work.underway.entry ≠ e := by
    simpa [Thread.waiting, List.countP_eq_zero] using calls
  have draft : th.stage.draft? e = none := by
    cases hs : th.stage <;> simp_all [Stage.draft?, Stage.inside, Work.draft?]
  have drafts : th.calls.filterMap (·.work.draft? e) = [] := by
    rw [List.filterMap_eq_nil_iff]
    exact fun call h => if_neg (elsewhere call h)
  have waiting : th.calls.filter (·.work.underway.entry = e) = [] := by
    simpa [List.filter_eq_nil_iff] using elsewhere
  simp [Thread.bindings, Thread.drafts, draft, drafts, waiting]

namespace Process

variable {host : Host σ} {p q p' : Process E σ} {t : ThreadId} {th th' : Thread E.Context σ}
  {e : EntryId} {x y : Entry E.Context} {b : Binding}
  {present : E.Context → List Binding}

/-- The references to the bindings of an entry, each binding as often as it is referred to. -/
def bindings (present : E.Context → List Binding) (e : EntryId) (p : Process E σ) : List Binding :=
  ((p.entry? e).map (Entry.bindings present)).getD []
    ++ p.threads.toList.flatMap (Thread.bindings e)

/-- The bridge refers to an object, through a binding or for a bind to come. -/
def Holds (present : E.Context → List Binding) (p : Process E σ) (object : ObjectId) : Prop :=
  (∃ e, ∃ b ∈ p.bindings present e, b.object = object) ∨
    ∃ th ∈ p.threads.toList, th.stage.object? = some object

/-- All threads run host code of their own. -/
def AtRest (p : Process E σ) : Prop :=
  ∀ th ∈ p.threads.toList, th.stage.isHost = true ∧ th.calls = []

theorem exists_of_mem_threads (h : th ∈ p.threads.toList) :
    ∃ t : ThreadId, p.threads[t.index]? = some th := by
  obtain ⟨i, hi⟩ := List.mem_iff_getElem?.1 h
  exact ⟨⟨i⟩, Array.getElem?_toList ▸ hi⟩

/-- Where no operation is inside its engine, an entry is all that refers to its bindings. -/
theorem bindings_of_idle (hx : p.entry? e = some x)
    (outside : ∀ {t : ThreadId} {th}, p.threads[t.index]? = some th → th.inside e = 0) :
    p.bindings present e = x.bindings present := by
  have none : p.threads.toList.flatMap (Thread.bindings e) = [] := by
    rw [List.flatMap_eq_nil_iff]
    intro th h
    obtain ⟨t, at_t⟩ := exists_of_mem_threads h
    exact Thread.bindings_eq_nil (outside at_t)
  rw [bindings, hx, none, List.append_nil]
  rfl

theorem Kept.bindings_of_idle (kept : p.Kept e) (hx : p.entry? e = some x) (idle : x.depth = 0) :
    p.bindings present e = x.bindings present := by
  refine Process.bindings_of_idle hx fun at_t => ?_
  have := le_total (Thread.inside e) at_t
  have := (kept.entry hx).depth
  omega

/-! ## The board -/

/-- A board is cleared as the engine is released. -/
theorem EntryStep.clears (step : EntryStep t th e x y)
    (clears : th.stage.move? e x = some .clear) : y.releases = x.releases + 1 := by
  cases step with
  | finishLast | destroy => rfl
  | away off => exact absurd ((Stage.move?_eq_none off).symm.trans clears) nofun
  | @check u c stage here engine =>
    obtain ⟨e', op, back⟩ := u
    cases op <;> simp [stage, Stage.move?] at clears
  | @checkReleased u stage here gone =>
    obtain ⟨e', op, back⟩ := u
    cases op <;> simp [stage, Stage.move?] at clears
  | publish stage here pending ok => simp [stage, Stage.move?, pending, ok] at clears
  | publishNothing stage here nothing =>
    rw [stage, Stage.move?_publish_eq_none (.inr nothing)] at clears
    cases clears
  | finish stage here more => simp [stage, Stage.move?, more] at clears
  | defer stage busy => exact absurd (by simpa [stage, Stage.move?] using clears) (Nat.ne_of_gt busy)
  | names stage | lock stage | enter stage | workRefused stage | work stage | leave stage
  | unlock stage | lockToClose stage | unlockClosed stage => simp [stage, Stage.move?] at clears

section Start

variable {memory : σ} {programs : List (Program σ MethodResult)} {past : List (Moment E σ)}

theorem Run.released_of_clear (run : Run host (start E memory programs) past p)
    (cleared : .clear ∈ moves e past) : ∃ x, p.entry? e = some x ∧ 0 < x.releases := by
  induction run with
  | refl => simp [moves] at cleared
  | @step past q r t run next ih =>
    have sound := run.sound SlotMap.sound_empty
    rw [moves_cons] at cleared
    rcases List.mem_append.1 cleared with earlier | now
    · obtain ⟨x, hx, released⟩ := ih earlier
      obtain ⟨y, hy, le, -⟩ := (Run.refl.step next).entry sound hx
      exact ⟨y, hy, by omega⟩
    · obtain ⟨x, hx, -⟩ := Option.bind_eq_some_iff.1 (Option.mem_toList.1 now)
      obtain ⟨th, p', th', at_t, act, rfl⟩ := step?_eq_some_iff.1 next
      obtain ⟨y, hy, step⟩ := act.entryStep hx
      rw [Moment.move?_eq hx at_t, Option.mem_toList] at now
      exact ⟨y, hy, step.clears now ▸ Nat.succ_pos _⟩

/-- A binding is on the board if it was published last under its name, until the engine is
released. -/
theorem Run.mem_published_iff (run : Run host (start E memory programs) past p)
    (hx : p.entry? e = some x) (b : Binding) :
    b ∈ x.board.published ↔ Latest (moves e past) b ∧ x.releases = 0 := by
  have board : x.board = Switchboard.empty.after (moves e past) := by
    rw [← boardOf_eq hx, run.boardOf_after SlotMap.sound_empty]
    rfl
  rcases Nat.eq_zero_or_pos x.releases with unreleased | released
  · have uncleared : Move.clear ∉ moves e past := fun h => by
      obtain ⟨y, hy, released⟩ := run.released_of_clear h
      obtain rfl := Option.some.inj (hx.symm.trans hy)
      omega
    have unique := run.unique hx
    rw [board] at unique ⊢
    rw [unique.mem_published_after_iff uncleared, and_iff_left unreleased]
  · rw [((run.kept e).entry hx).cleared released]
    exact iff_of_false List.not_mem_nil fun h => by omega

/-- Where no operation is inside its engine, the references to a binding are one on the board, if it
is there, and one for each proxy function of it. -/
theorem Run.count_bindings (run : Run host (start E memory programs) past p)
    (hx : p.entry? e = some x) (idle : x.depth = 0) (b : Binding) :
    (p.bindings present e).count b
      = (if b ∈ x.board.published then 1 else 0) + ((x.engine.map present).getD []).count b := by
  rw [(run.kept e).bindings_of_idle hx idle, Entry.bindings, List.count_append,
    (run.unique hx).count_published]

/-- Once the engine of an entry is released nothing refers to its bindings, or to the engine. -/
theorem Run.bindings_of_released (run : Run host (start E memory programs) past p)
    (hx : p.entry? e = some x) (released : 0 < x.releases) :
    p.bindings present e = [] ∧ x.engine = none ∧ x.pins = 0 := by
  have key := (run.kept e).entry hx
  have idle : x.depth = 0 := by
    by_contra h
    have := key.busy (Nat.pos_of_ne_zero h)
    omega
  have gone : x.engine = none := by
    rw [← Option.not_isSome_iff_eq_none, key.engine]
    omega
  refine ⟨?_, gone, key.pins.trans idle⟩
  rw [(run.kept e).bindings_of_idle hx idle, Entry.bindings, gone, key.cleared released]
  rfl

/-! ## Collections -/

/-- A collection that is all that was done since a state in which nobody had the lock lets the
engine collect, and changes nothing else. -/
theorem Run.collected {before : List (Moment E σ)}
    (toP : Run host (start E memory programs) before p) (hx : p.entry? e = some x)
    (unlocked : x.lock = none) {c : E.Context} (engine : x.engine = some c)
    (run : Run host p past q) {back : Except BridgeFault Unit → Program σ MethodResult}
    {r : Except BridgeFault Unit} (once : ended e past = [.use t ⟨e, .collect, back⟩ r])
    (free : q.Free e) :
    ∃ y, q.entry? e = some y ∧ y.engine = some (E.collect c) ∧ y.board = x.board ∧ r = .ok () := by
  have freeP : p.Free e := toP.free_of_lock hx unlocked
  obtain ⟨y, turns, d, done, returned, progress⟩ := toP.progress hx freeP run
  obtain ⟨-, -, desk, -⟩ := progress.free free
  obtain ⟨⟨turn, marks, returned⟩, rfl, rfl⟩ :=
    List.map_eq_singleton_iff.1 (progress.ended.symm.trans once)
  have work : begin E .collect none c = .done (.ok ()) (E.collect c) := rfl
  obtain ⟨ok, served⟩ := progress.serial.of_singleton.of_done engine
    (toP.closing_eq_false hx freeP) rfl work
  rw [← desk] at served
  exact ⟨y, progress.entry, congrArg Desk.engine served, congrArg Desk.board served, ok⟩

end Start

/-! ## Binds that are refused -/

/-- Where a thread refers to the same bindings and no entry is changed, the references are as they
were. -/
theorem bindings_setThread (at_t : p.threads[t.index]? = some th)
    (same : th'.bindings e = th.bindings e) :
    (p.setThread t th').bindings present e = p.bindings present e := by
  have at_t' : (p.threads.toList.map (Thread.bindings e))[t.index]? = some (th.bindings e) := by
    rw [List.getElem?_map, Array.getElem?_toList, at_t]
    rfl
  have threads : (p.setThread t th').threads.toList.map (Thread.bindings e)
      = p.threads.toList.map (Thread.bindings e) := by
    rw [threads_setThread, Array.toList_setIfInBounds, List.map_set, same]
    obtain ⟨h, eq⟩ := List.getElem?_eq_some_iff.1 at_t'
    rw [← eq, List.set_getElem_self]
  show _ ++ _ = _ ++ _
  rw [List.flatMap_def, List.flatMap_def, threads]
  rfl

theorem bindings_report (events : List Event) :
    (p.report events).bindings present e = p.bindings present e := rfl

/-- A bind that is refused changes no reference, and keeps none. -/
theorem bindings_of_refused {h : Handle} {name : String} {contract : Contract} {object : ObjectId}
    {back : Except BridgeFault Unit → Program σ MethodResult}
    (at_t : p.threads[t.index]? = some th)
    (stage : th.stage = .find h (.bind name contract object) back)
    (refused : name.isEmpty = true ∨
      ∃ refusal, contract.check (host.facets p.memory object) = .error refusal)
    (next : p.step? host t = some q) :
    (∃ fault, q.threads[t.index]? = some { th with stage := .host (back (.error fault)) }) ∧
      ∀ e, q.bindings present e = p.bindings present e := by
  have same (fault : BridgeFault) (e : EntryId) :
      Thread.bindings e { th with stage := .host (back (.error fault)) } = th.bindings e := by
    simp [Thread.bindings, Thread.drafts, stage, Stage.draft?]
  have told {fault : BridgeFault} {p' : Process E σ}
      (act : Act host p t th p' { th with stage := .host (back (.error fault)) })
      (reported : ∃ events, p' = p.report events) :
      (∃ fault, q.threads[t.index]? = some { th with stage := .host (back (.error fault)) }) ∧
        ∀ e, q.bindings present e = p.bindings present e := by
    obtain ⟨events, rfl⟩ := reported
    rw [act.eq_of_step? at_t next]
    refine ⟨⟨fault, getElem?_setThread_self (p := p.report events) at_t⟩, fun e => ?_⟩
    rw [bindings_setThread (p := p.report events) at_t (same fault e), bindings_report]
  cases found : p.directory.get? h with
  | none => exact told (.findClosed stage found) ⟨[], rfl⟩
  | some e =>
    cases named : name.isEmpty with
    | true => exact told (.findUnnamed stage found named) ⟨[], rfl⟩
    | false =>
      rcases refused with unnamed | ⟨refusal, check⟩
      · exact absurd (named.symm.trans unnamed) Bool.false_ne_true
      · exact told (.findRefused stage found named check) ⟨_, rfl⟩

/-! ## Host objects -/

theorem AtRest.outside (rest : p.AtRest) (e : EntryId) (at_t : p.threads[t.index]? = some th) :
    th.inside e = 0 := by
  obtain ⟨host, calls⟩ := rest th (Array.mem_toList_iff.2 (Array.mem_of_getElem? at_t))
  cases stage : th.stage <;> simp_all [Stage.isHost]

theorem AtRest.mem_bindings_iff (rest : p.AtRest) (b : Binding) :
    b ∈ p.bindings present e ↔ ∃ x, p.entry? e = some x ∧ b ∈ x.bindings present := by
  cases hx : p.entry? e with
  | some x =>
    rw [bindings_of_idle hx (rest.outside e)]
    simp
  | none =>
    refine iff_of_false (fun hb => ?_) nofun
    obtain ⟨th, hth, hb⟩ : ∃ th ∈ p.threads.toList, b ∈ th.bindings e := by
      simpa [Process.bindings, hx] using hb
    obtain ⟨t, at_t⟩ := exists_of_mem_threads hth
    rw [Thread.bindings_eq_nil (rest.outside e at_t)] at hb
    cases hb

theorem AtRest.holds_iff (rest : p.AtRest) (object : ObjectId) :
    p.Holds present object ↔
      ∃ e x b, p.entry? e = some x ∧ b ∈ x.bindings present ∧ b.object = object := by
  constructor
  · rintro (⟨e, b, hb, rfl⟩ | ⟨th, hth, bound⟩)
    · obtain ⟨x, hx, hb⟩ := (rest.mem_bindings_iff b).1 hb
      exact ⟨e, x, b, hx, hb, rfl⟩
    · obtain ⟨host, -⟩ := rest th hth
      cases stage : th.stage <;> simp_all [Stage.isHost, Stage.object?]
  · rintro ⟨e, x, b, hx, hb, rfl⟩
    exact Or.inl ⟨e, b, (rest.mem_bindings_iff b).2 ⟨x, hx, hb⟩, rfl⟩

/-- With nothing under way the references that the bridge counts are those within the reach of
scripts. -/
theorem AtRest.references_pos_iff (rest : p.AtRest) (object : ObjectId) :
    0 < p.references object ↔ p.Holds E.proxies object := by
  have calls : p.threads.toList.flatMap (fun th => th.calls.map (·.invocation.binding)) = [] := by
    rw [List.flatMap_eq_nil_iff]
    intro th hth
    rw [(rest th hth).2]
    rfl
  rw [references, List.countP_pos_iff, rest.holds_iff, held, calls, List.append_nil]
  constructor
  · rintro ⟨b, hb, object⟩
    obtain ⟨x, hx, hb⟩ := List.mem_flatMap.1 hb
    obtain ⟨i, hi⟩ := List.mem_iff_getElem?.1 hx
    exact ⟨⟨i⟩, x, b, by rwa [Array.getElem?_toList] at hi, hb, by simpa using object⟩
  · rintro ⟨e, x, b, hx, hb, object⟩
    refine ⟨b, List.mem_flatMap.2 ⟨x, ?_, hb⟩, by simpa using object⟩
    exact Array.mem_toList_iff.2 (Array.mem_of_getElem? hx)

/-! ## What the bridge holds -/

section Start

variable {memory : σ} {programs : List (Program σ MethodResult)} {past : List (Moment E σ)}

/-- With nothing under way an object is held through a binding that was published last, or through a
proxy function. -/
theorem Run.holds_iff (run : Run host (start E memory programs) past p) (rest : p.AtRest)
    (object : ObjectId) :
    p.Holds present object ↔ ∃ e x b, p.entry? e = some x ∧ b.object = object ∧
      (Latest (moves e past) b ∧ x.releases = 0 ∨ b ∈ (x.engine.map present).getD []) := by
  rw [rest.holds_iff]
  constructor
  · rintro ⟨e, x, b, hx, hb, rfl⟩
    rw [Entry.bindings, List.mem_append, run.mem_published_iff hx] at hb
    exact ⟨e, x, b, hx, rfl, hb⟩
  · rintro ⟨e, x, b, hx, rfl, hb⟩
    refine ⟨e, x, b, hx, ?_, rfl⟩
    rwa [Entry.bindings, List.mem_append, run.mem_published_iff hx]

/-- The bridge refers to a binding as long as it must.  On the board of an interpreter is what was
published last under each name, until the engine is released.  Where no operation is inside the
engine, the references to a binding are this one and one for each proxy function of it, which
`present` tells of; and after the release there is none, and none to the engine.  So what was
replaced is referred to no more after a collection that scripts have no proxy function of it for; a
bind that is refused changes no reference, and one that the engine fails leaves proxy functions at
most.  With nothing under way an object is held through such bindings alone.  The engine for scripts
takes away the functions out of reach. -/
theorem bridge_holds_exactly (run : Run host (start E memory programs) past p)
    (present : E.Context → List Binding) :
    (∀ {e x}, p.entry? e = some x →
      (∀ b, b ∈ x.board.published ↔ Latest (moves e past) b ∧ x.releases = 0) ∧
      (x.depth = 0 → ∀ b, (p.bindings present e).count b
        = (if b ∈ x.board.published then 1 else 0) + ((x.engine.map present).getD []).count b) ∧
      (0 < x.releases → p.bindings present e = [] ∧ x.engine = none ∧ x.pins = 0)) ∧
    (∀ {e x c t back r later q}, p.entry? e = some x → x.lock = none → x.engine = some c →
      Run host p later q → ended e later = [.use t ⟨e, .collect, back⟩ r] → q.Free e →
      (∀ b ∈ present (E.collect c), b ∈ E.proxies c) →
      ∀ b, ¬ Latest (moves e past) b → b ∉ E.proxies c → b ∉ q.bindings present e) ∧
    (∀ {t th h name contract object back q}, p.threads[ThreadId.index t]? = some th →
      th.stage = .find h (.bind name contract object) back →
      (name.isEmpty = true ∨ ∃ refusal,
        contract.check (host.facets p.memory object) = .error refusal) →
      p.step? host t = some q →
      (∃ fault, q.threads[t.index]? = some { th with stage := .host (back (.error fault)) }) ∧
        ∀ e, q.bindings present e = p.bindings present e) ∧
    (∀ {t th w fault b e q later r z}, p.threads[ThreadId.index t]? = some th →
      th.stage = .publish w (.error fault) → w.draft? e = some b → p.step? host t = some q →
      Run host q later r → r.entry? e = some z → z.depth = 0 →
      (r.bindings present e).count b = ((z.engine.map present).getD []).count b) ∧
    (p.AtRest → ∀ object,
      (p.Holds present object ↔ ∃ e x b, p.entry? e = some x ∧ b.object = object ∧
        (Latest (moves e past) b ∧ x.releases = 0 ∨ b ∈ (x.engine.map present).getD [])) ∧
      (0 < p.references object ↔ p.Holds E.proxies object)) ∧
    ∀ zone (m : Script.Machine), m.working = 0 →
      ∀ b ∈ Script.Machine.installed ((Script.engine zone).collect m),
        b ∈ (Script.engine zone).proxies m := by
  refine ⟨fun hx => ⟨run.mem_published_iff hx, run.count_bindings hx, run.bindings_of_released hx⟩,
    ?_, bindings_of_refused, ?_, fun rest object => ⟨run.holds_iff rest object,
      rest.references_pos_iff object⟩, fun zone m idle b hb => ?_⟩
  · intro e x c t back r later q hx unlocked engine onwards once free frees b replaced dropped
    obtain ⟨y, hy, engine', board, -⟩ := run.collected hx unlocked engine onwards once free
    rw [bindings_of_idle hy fun at_t => ?_, Entry.bindings, board, engine', List.mem_append,
      run.mem_published_iff hx]
    · rintro (⟨last, -⟩ | surviving)
      · exact replaced last
      · exact dropped (frees b surviving)
    · have := free at_t
      have := Thread.inside_le_holds e ‹_›
      omega
  · intro t th w fault b e q later r z at_t stage draft next onwards hz idle
    have unpublished : b ∉ z.board.published := fun hb =>
      run.not_published_of_failed at_t stage draft next onwards b (boardOf_eq hz ▸ hb) rfl
    rw [((run.step next).trans onwards).count_bindings hz idle, if_neg unpublished, Nat.zero_add]
  · have hb : b ∈ m.collect.installed := hb
    rwa [m.installed_collect idle] at hb

end Start

/-- Of the first binding a script has a proxy function, of the second the board as well. A
collection takes away the first. -/
def rebinding : Process .tidy Unit :=
  start .tidy ()
    [.ask (.create default) fun _ =>
      .ask (.use ⟨0⟩ (.bind "door" ⟨"Door", false, [], [⟨"shut", [], .void⟩]⟩ ⟨0⟩)) fun _ =>
      .ask (.use ⟨0⟩ (.bind "door" ⟨"Door", false, [], [⟨"shut", [], .void⟩]⟩ ⟨1⟩)) fun _ =>
      .ask (.use ⟨0⟩ .collect) fun _ => .done (.ok .void)]

theorem bridge_holds_exactly_rebinding :
    ∃ (p q : Process .tidy Unit) (old new : Binding), old.object = ⟨0⟩ ∧ new.object = ⟨1⟩ ∧
      rebinding.follow closer (List.replicate 21 ⟨0⟩) = some p ∧
      p.follow closer (List.replicate 10 ⟨0⟩) = some q ∧
      (p.bindings id ⟨0⟩).count old = 1 ∧ (p.bindings id ⟨0⟩).count new = 2 ∧
      old ∉ q.bindings id ⟨0⟩ := by
  obtain ⟨p, q, x, y, old, new, first, second, distinct, reached, collecting, hx, board, engine,
      unlocked, idle, unreleased, once, hy, given, dropped⟩ :
      ∃ (p q : Process .tidy Unit) (x y : Entry Engine.tidy.Context) (old new : Binding),
        old.object = ⟨0⟩ ∧ new.object = ⟨1⟩ ∧ old ≠ new ∧
        rebinding.follow closer (List.replicate 21 ⟨0⟩) = some p ∧
        p.follow closer (List.replicate 10 ⟨0⟩) = some q ∧ p.entry? ⟨0⟩ = some x ∧
        x.board.published = [new] ∧ x.engine = some [new, old] ∧
        x.lock = none ∧ x.depth = 0 ∧ x.releases = 0 ∧
        ended ⟨0⟩ (p.moments closer (List.replicate 10 ⟨0⟩))
          = [.use ⟨0⟩ ⟨⟨0⟩, .collect, fun _ => .done (.ok .void)⟩ (.ok ())] ∧
        q.entry? ⟨0⟩ = some y ∧ y.lock = none ∧ old ∉ newest [new, old] :=
    ⟨_, _, _, _, ⟨1, "door", ⟨"Door", [⟨"shut", [], .void⟩]⟩, ⟨0⟩⟩,
      ⟨2, "door", ⟨"Door", [⟨"shut", [], .void⟩]⟩, ⟨1⟩⟩,
      rfl, rfl, by decide, rfl, rfl, rfl, rfl, rfl, rfl, rfl, rfl, rfl, rfl, rfl, by decide⟩
  have run : Run closer rebinding _ p := .of_follow reached
  have onwards : Run closer p _ q := .of_follow collecting
  obtain ⟨here, collected, -⟩ := bridge_holds_exactly run id
  obtain ⟨published, counted, -⟩ := here hx
  have replaced : old ∉ x.board.published := by simp [board, distinct]
  have free : q.Free ⟨0⟩ := (run.trans onwards).free_of_lock hy given
  refine ⟨p, q, old, new, first, second, reached, collecting, ?_, ?_, ?_⟩
  · rw [counted idle, board, engine]
    show (if old ∈ [new] then 1 else 0) + [new, old].count old = 1
    simp [distinct, distinct.symm]
  · rw [counted idle, board, engine]
    show (if new ∈ [new] then 1 else 0) + [new, old].count new = 2
    simp [distinct]
  · exact collected hx unlocked engine onwards once free (fun _ h => h) old
      (fun last => replaced ((published old).2 ⟨last, unreleased⟩)) dropped

end Process

end Drawbridge
