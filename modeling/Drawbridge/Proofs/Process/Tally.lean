import Drawbridge.Proofs.Process.Run

/-!
# Tallies of an entry

What a thread has of an entry is counted: holds of its lock, operations inside its engine, and a
close that took it out of the directory.  `View.Change` lists how an action changes one entry and
what is counted of it; `Act.change` says that there is nothing else.
-/

namespace Drawbridge

variable {C : Type} {E : Engine} {σ : Type}

/-! ## What is counted -/

namespace Stage

/-- The holds of the lock of `e` that a thread at this stage has besides its calls in progress. -/
def holds (e : EntryId) : Stage C σ → Nat
  | .check u | .enter u _ | .finish u _ | .unlock u _ => if u.entry = e then 1 else 0
  | .work w _ | .leave w _ | .publish w _ => if w.underway.entry = e then 1 else 0
  | .destroy e' _ | .unlockClosed e' _ => if e' = e then 1 else 0
  | _ => 0

/-- The operations past their check of the engine of `e`. -/
def inside (e : EntryId) : Stage C σ → Nat
  | .enter u _ | .finish u _ => if u.entry = e then 1 else 0
  | .work w _ | .leave w _ | .publish w _ => if w.underway.entry = e then 1 else 0
  | _ => 0

/-- The closes that took `e` out of the directory and have not seen to its engine. -/
def leaving (e : EntryId) : Stage C σ → Nat
  | .lockToClose e' _ | .destroy e' _ => if e' = e then 1 else 0
  | _ => 0

end Stage

namespace Thread

/-- The operations on `e` that wait for a call of the host. -/
def waiting (e : EntryId) (th : Thread C σ) : Nat :=
  th.calls.countP fun call => call.work.underway.entry = e

/-- How often a thread has the lock of `e`. -/
def holds (e : EntryId) (th : Thread C σ) : Nat := th.stage.holds e + th.waiting e

/-- The operations of a thread past their check of the engine of `e`. -/
def inside (e : EntryId) (th : Thread C σ) : Nat := th.stage.inside e + th.waiting e

/-- The closes of a thread that took `e` out of the directory and have not seen to its engine. -/
def leaving (e : EntryId) (th : Thread C σ) : Nat := th.stage.leaving e

theorem inside_le_holds (e : EntryId) (th : Thread C σ) : th.inside e ≤ th.holds e := by
  have : th.stage.inside e ≤ th.stage.holds e := by
    cases th.stage <;> simp [Stage.inside, Stage.holds]
  exact Nat.add_le_add_right this _

end Thread

/-- An entry, how often the directory leads there, and what a thread has of it. -/
structure View (C : Type) where
  entry : Option (Entry C)
  listed : Nat
  holds : Nat
  inside : Nat
  leaving : Nat

/-- How an action of thread `t` changes an entry and what is counted of it. -/
inductive View.Change (t : ThreadId) (v v' : View C) : Prop
  | keep (eq : v' = v)
  | create {c} (unused : v.entry = none)
      (eq : v' = { v with entry := some (.fresh c), listed := v.listed + 1 })
  | run {c} (inside : 0 < v.inside)
      (eq : v' = { v with entry := v.entry.map fun x => { x with engine := some c } })
  | gate {g} (eq : v' = { v with entry := v.entry.map fun x => { x with gate := g } })
  | publish {b} (inside : 0 < v.inside)
      (eq : v' = { v with entry := v.entry.map fun x => { x with board := x.board.commit b } })
  | grab {x} (entry : v.entry = some x) (free : x.Open t)
      (eq : v' = { v with entry := some (x.grab t), holds := v.holds + 1 })
  | engage {x c} (op : Operation) (entry : v.entry = some x) (engine : x.engine = some c)
      (holds : 0 < v.holds)
      (eq : v' = { v with entry := some (x.engage op), inside := v.inside + 1 })
  | dismiss {x n} (entry : v.entry = some x) (more : x.last = false) (inside : v.inside = n + 1)
      (eq : v' = { v with entry := some x.dismiss, inside := n })
  | dismissLast {x n} (entry : v.entry = some x) (last : x.last = true) (inside : v.inside = n + 1)
      (eq : v' = { v with entry := some x.dismiss.dropEngine, inside := n })
  | letGo {n} (holds : v.holds = n + 1)
      (eq : v' = { v with entry := v.entry.map Entry.letGo, holds := n })
  | vacate {n} (listed : v.listed = n + 1)
      (eq : v' = { v with listed := n, leaving := v.leaving + 1 })
  | defer {x n} (entry : v.entry = some x) (busy : 0 < x.depth) (leaving : v.leaving = n + 1)
      (eq : v' = { v with entry := some { x with closing := true }, leaving := n })
  | destroy {x n} (entry : v.entry = some x) (idle : x.depth = 0) (holds : 0 < v.holds)
      (leaving : v.leaving = n + 1)
      (eq : v' = { v with entry := some x.dropEngine, leaving := n })

/-- A board publishes what it did or a binding more, until it is cleared with the release. -/
theorem View.Change.board {t : ThreadId} {v v' : View C} (change : View.Change t v v') {x : Entry C}
    (hx : v.entry = some x) :
    ∃ y, v'.entry = some y ∧
      (y.releases = x.releases ∧
          (y.board.published = x.board.published ∨ ∃ b, y.board = x.board.commit b) ∨
        y.releases = x.releases + 1 ∧ y.board = x.board.clear) := by
  have entry_eq {z : Entry C} (entry : v.entry = some z) : z = x :=
    Option.some.inj (entry.symm.trans hx)
  cases change with
  | create unused => exact absurd (hx.symm.trans unused) nofun
  | keep eq | vacate listed eq =>
    subst eq
    exact ⟨x, hx, Or.inl ⟨rfl, Or.inl rfl⟩⟩
  | run inside eq | gate eq | letGo holds eq =>
    subst eq
    rw [hx]
    exact ⟨_, rfl, Or.inl ⟨rfl, Or.inl rfl⟩⟩
  | @publish b inside eq =>
    subst eq
    rw [hx]
    exact ⟨_, rfl, Or.inl ⟨rfl, Or.inr ⟨b, rfl⟩⟩⟩
  | grab entry free eq | dismiss entry more inside eq | defer entry busy leaving eq =>
    subst eq
    obtain rfl := entry_eq entry
    exact ⟨_, rfl, Or.inl ⟨rfl, Or.inl rfl⟩⟩
  | engage op entry engine holds eq =>
    subst eq
    obtain rfl := entry_eq entry
    refine ⟨_, rfl, Or.inl ⟨rfl, Or.inl ?_⟩⟩
    cases op <;> rfl
  | dismissLast entry last inside eq | destroy entry idle holds leaving eq =>
    subst eq
    obtain rfl := entry_eq entry
    exact ⟨_, rfl, Or.inr ⟨rfl, rfl⟩⟩

/-- An entry that was not there before is fresh. -/
theorem View.Change.fresh {t : ThreadId} {v v' : View C} (change : View.Change t v v')
    (unused : v.entry = none) {y : Entry C} (hy : v'.entry = some y) : ∃ c, y = .fresh c := by
  have entry_eq {z : Entry C} (entry : v.entry = some z) : ∃ c, y = .fresh c :=
    absurd (unused.symm.trans entry) nofun
  have none_map {f : Entry C → Entry C} (eq : v'.entry = v.entry.map f) : ∃ c, y = .fresh c := by
    rw [eq, unused] at hy
    cases hy
  cases change with
  | @create c _ eq => exact ⟨c, (Option.some.inj (hy.symm.trans (congrArg View.entry eq)))⟩
  | keep eq | vacate _ eq =>
    exact absurd (hy.symm.trans ((congrArg View.entry eq).trans unused)) nofun
  | run _ eq | gate eq | publish _ eq | letGo _ eq => exact none_map (congrArg View.entry eq)
  | grab entry | engage _ entry | dismiss entry | dismissLast entry | defer entry | destroy entry =>
    exact entry_eq entry

namespace Process

variable {host : Host σ} {p q p' : Process E σ} {t : ThreadId} {th th' : Thread E.Context σ}

/-- What there is of an entry in a process, and what a thread has of it. -/
def view (p : Process E σ) (th : Thread E.Context σ) (e : EntryId) : View E.Context :=
  ⟨p.entry? e, p.directory.times e, th.holds e, th.inside e, th.leaving e⟩

/-! ## What actions change -/

attribute [simp] Thread.holds Thread.inside Thread.leaving Thread.waiting
  Stage.holds Stage.inside Stage.leaving

/-- An action on one entry leaves the others as they are, as long as the thread has of them what it
had. -/
theorem Change.of_modify {e e' : EntryId} {f : Entry E.Context → Entry E.Context}
    (events : List Event)
    (own : View.Change t (p.view th e) ((p.modifyEntry e f).view th' e))
    (rest : e ≠ e' →
      th'.holds e' = th.holds e' ∧ th'.inside e' = th.inside e' ∧ th'.leaving e' = th.leaving e') :
    View.Change t (p.view th e') (((p.modifyEntry e f).report events).view th' e') := by
  by_cases h : e = e'
  · subst h
    exact own
  · obtain ⟨holds, inside, leaving⟩ := rest h
    refine .keep ?_
    simp only [view, entry?_report, directory_report, directory_modifyEntry, entry?_modifyEntry,
      if_neg (Ne.symm h), holds, inside, leaving]

theorem Act.change (act : Act host p t th p' th') (sound : p.directory.Sound) (e : EntryId) :
    View.Change t (p.view th e) (p'.view th' e) := by
  cases act with
  | @create settings next c stage =>
    by_cases h : e = ⟨p.entries.size⟩
    · subst h
      refine .create (c := c) p.entry?_size ?_
      simp [view, stage, entry?_enroll, SlotMap.times_insert sound]
    · refine .keep ?_
      simp [view, stage, entry?_enroll, SlotMap.times_insert sound, h, Ne.symm h]
  | @lock u x stage entry free =>
    refine Change.of_modify [] ?_ fun h => by simp [stage, h]
    refine .grab entry free ?_
    simp [view, stage, entry?_modifyEntry, entry]
    omega
  | @check u x c stage entry engine =>
    refine Change.of_modify [] ?_ fun h => by simp [stage, h]
    refine .engage u.operation entry engine (by simp [view, stage]) ?_
    simp [view, stage, entry?_modifyEntry, entry]
    omega
  | @enter u pending x direct x' c stage entry entrance engine =>
    obtain ⟨g, rfl⟩ : ∃ g, x' = { x with gate := g } := by
      rcases entrance?_eq_some entrance with ⟨-, -, rfl⟩ | ⟨-, -, -, rfl⟩
      · exact ⟨x'.gate, rfl⟩
      · exact ⟨_, rfl⟩
    refine Change.of_modify [] ?_ fun _ => by simp [stage]
    refine .gate (g := g) ?_
    simp [view, stage, entry?_modifyEntry, entry]
  | @workDone w r c stage =>
    refine Change.of_modify [] ?_ fun _ => by simp [stage]
    refine .run (c := c) (by simp [view, stage]) ?_
    simp [view, stage, entry?_modifyEntry]
  | @workCall w target args c resume invocation stage =>
    refine Change.of_modify _ ?_ fun h => by simp [stage, h]
    refine .run (c := c) (by simp [view, stage]) ?_
    simp [view, stage, entry?_modifyEntry, Nat.add_comm]
  | leave stage =>
    split_ifs
    · exact .keep (by simp [view, stage])
    refine Change.of_modify [] ?_ fun _ => by simp [stage]
    refine .gate (g := none) ?_
    simp [view, stage, entry?_modifyEntry]
  | @publish w r x b y stage =>
    refine Change.of_modify _ ?_ fun _ => by simp [stage]
    refine .publish (b := b) (by simp [view, stage]) ?_
    simp [view, stage, entry?_modifyEntry]
  | finish stage entry more =>
    refine Change.of_modify [] ?_ fun h => by simp [stage, h]
    refine .dismiss entry more (by simp [view, stage]; exact Nat.add_comm _ _) ?_
    simp [view, stage, entry?_modifyEntry, entry]
  | finishLast stage entry last =>
    rw [modifyEntry_modifyEntry]
    refine Change.of_modify _ ?_ fun h => by simp [stage, h]
    refine .dismissLast entry last (by simp [view, stage]; exact Nat.add_comm _ _) ?_
    simp [view, stage, entry?_modifyEntry, entry]
  | unlock stage =>
    refine Change.of_modify [] ?_ fun h => by simp [stage, h]
    refine .letGo (by simp [view, stage]; exact Nat.add_comm _ _) ?_
    simp [view, stage, entry?_modifyEntry]
  | @vacate h back e' stage found =>
    have times := SlotMap.times_remove found e
    by_cases he : e' = e
    · subst he
      rw [if_pos rfl] at times
      refine .vacate times.symm ?_
      simp [view, stage, entry?]
    · rw [if_neg he, Nat.add_zero] at times
      refine .keep ?_
      simp [view, stage, entry?, times, he]
  | lockToClose stage entry free =>
    refine Change.of_modify [] ?_ fun h => by simp [stage, h]
    refine .grab entry free ?_
    simp [view, stage, entry?_modifyEntry, entry]
    omega
  | defer stage entry busy =>
    refine Change.of_modify _ ?_ fun h => by simp [stage, h]
    refine .defer (n := 0) entry busy (by simp [view, stage]) ?_
    simp [view, stage, entry?_modifyEntry, entry]
  | destroy stage entry idle =>
    refine Change.of_modify _ ?_ fun h => by simp [stage, h]
    refine .destroy (n := 0) entry idle (by simp [view, stage]) (by simp [view, stage]) ?_
    simp [view, stage, entry?_modifyEntry, entry]
  | unlockClosed stage =>
    refine Change.of_modify _ ?_ fun h => by simp [stage, h]
    refine .letGo (by simp [view, stage]; exact Nat.add_comm _ _) ?_
    simp [view, stage, entry?_modifyEntry]
  | @resume body r call calls c stage result calling =>
    refine .keep ?_
    simp [view, stage, calling, List.countP_cons, Nat.add_comm]
  | drop stage => exact .keep (by split_ifs <;> simp [view, stage])
  | read stage | write stage | createFailed stage | useClosed stage | useDefault stage | use stage
  | closeAgain stage | close stage | handle stage | settings stage | references stage
  | events stage | findClosed stage | findGlobals stage | findEvaluate stage | findCollect stage
  | findUnnamed stage | findRefused stage | findBind stage | names stage | checkReleased stage
  | workRefused stage | publishNothing stage | vacateNone stage =>
    exact .keep (by simp [view, stage, entry?, report])

end Process

end Drawbridge
