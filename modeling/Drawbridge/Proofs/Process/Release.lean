import Drawbridge.Proofs.Process.Entries
import Drawbridge.Proofs.Process.Registry
import Drawbridge.Proofs.Process.Tally

/-!
# The release of engines

`Entry.Kept` ties the state of an entry to what threads have of it: of the directory, a close under
way, a close left to the operations inside and a release there is always exactly one.  `Run.kept` is
the invariant, `Run.released` what a step finds that releases an engine, `Run.releases_iff` which
engines have been released once nothing is under way.
-/

namespace Drawbridge

variable {C : Type} {E : Engine} {σ : Type}

namespace Entry

variable {x : Entry C} {s t : ThreadId}

/-! ## Locks -/

theorem holds_eq_zero (free : x.Open t) (h : s ≠ t) : x.holds s = 0 := by
  unfold holds
  split
  · next owner n hl =>
    rw [if_neg]
    rintro rfl
    exact h (free _ _ hl)
  · rfl

theorem holds_grab (free : x.Open t) (s : ThreadId) :
    (x.grab t).holds s = x.holds s + if s = t then 1 else 0 := by
  by_cases h : s = t
  · simp [holds, grab, h]
  · rw [holds_eq_zero free h, if_neg h]
    simp [holds, grab, Ne.symm h]

theorem lock_of_holds (h : 0 < x.holds t) : ∃ n, x.lock = some (t, n) := by
  unfold holds at h
  split at h
  · next owner n hl =>
    split_ifs at h with ho
    · exact ⟨n, ho ▸ hl⟩
    · omega
  · omega

theorem holds_letGo (h : 0 < x.holds t) (s : ThreadId) :
    x.letGo.holds s + (if s = t then 1 else 0) = x.holds s := by
  obtain ⟨n, hl⟩ := lock_of_holds h
  have hn : 0 < n := by simpa [holds, hl] using h
  by_cases h1 : n ≤ 1
  · obtain rfl : n = 1 := by omega
    by_cases hs : s = t
    · simp [holds, letGo, hl, hs]
    · simp [holds, letGo, hl, hs, Ne.symm hs]
  · by_cases hs : s = t
    · simp [holds, letGo, hl, h1, hs]
      omega
    · simp [holds, letGo, hl, h1, hs, Ne.symm hs]

/-! ## What is kept of an entry -/

theorem last_iff : x.last = true ↔ x.depth = 1 ∧ x.closing = true := by simp [last]

/-- What the counts of an entry say of its state: the close of a listed entry goes on with a thread,
then with the operations inside, and then the engine is released. -/
structure Kept (x : Entry C) (listed inside leaving : Nat) : Prop where
  once : listed + leaving + x.closing.toNat + x.releases = 1
  depth : x.depth = inside
  pins : x.pins = x.depth
  engine : x.engine.isSome ↔ x.releases = 0
  closing : x.closing = true → 0 < x.depth
  busy : 0 < x.depth → x.releases = 0
  cleared : 0 < x.releases → x.board = x.board.clear
  locked : ∀ owner n, x.lock = some (owner, n) → 0 < n

variable {l i c : Nat}

theorem kept_fresh (a : C) : (fresh a).Kept 1 0 0 := by
  constructor <;> simp [fresh]

theorem Kept.grab (kept : x.Kept l i c) (t : ThreadId) : (x.grab t).Kept l i c :=
  { kept with
    locked := by
      intro owner n h
      simp only [Entry.grab, Option.some.injEq, Prod.mk.injEq] at h
      omega }

theorem Kept.letGo (kept : x.Kept l i c) : x.letGo.Kept l i c :=
  { kept with
    locked := by
      intro owner n h
      simp only [Entry.letGo] at h
      split at h
      · split_ifs at h
        simp only [Option.some.injEq, Prod.mk.injEq] at h
        omega
      · cases h }

theorem Kept.run (kept : x.Kept l i c) (inside : 0 < i) (a : C) :
    { x with engine := some a }.Kept l i c :=
  { kept with engine := by simpa using kept.busy (kept.depth ▸ inside) }

theorem Kept.gate (kept : x.Kept l i c) (g : Option ThreadId) : { x with gate := g }.Kept l i c :=
  { kept with }

theorem Kept.publish (kept : x.Kept l i c) (inside : 0 < i) (b : Binding) :
    { x with board := x.board.commit b }.Kept l i c :=
  { kept with
    cleared := fun h => absurd (kept.busy (kept.depth ▸ inside)) (Nat.ne_of_gt h) }

theorem Kept.engage (kept : x.Kept l i c) {a : C} (engine : x.engine = some a) (op : Operation) :
    (x.engage op).Kept l (i + 1) c where
  once := kept.once
  depth := congrArg (· + 1) kept.depth
  pins := congrArg (· + 1) kept.pins
  engine := kept.engine
  closing _ := Nat.succ_pos _
  busy _ := kept.engine.1 (by rw [engine]; rfl)
  cleared h := absurd (kept.engine.1 (by rw [engine]; rfl)) (Nat.ne_of_gt h)
  locked := kept.locked

theorem Kept.dismiss (kept : x.Kept l (i + 1) c) (more : x.last = false) :
    x.dismiss.Kept l i c := by
  have hdepth := kept.depth
  have hclosing : x.dismiss.closing = x.closing := by simp [Entry.dismiss, more]
  refine ⟨?_, ?_, ?_, kept.engine, ?_, ?_, kept.cleared, kept.locked⟩
  · rw [hclosing]
    exact kept.once
  · simp only [Entry.dismiss]
    omega
  · simp only [Entry.dismiss, kept.pins]
  · intro h
    rw [hclosing] at h
    have hne : x.depth ≠ 1 := by simpa [last, h] using more
    simp only [Entry.dismiss]
    omega
  · intro
    exact kept.busy (by omega)

theorem Kept.dismissLast (kept : x.Kept l (i + 1) c) (isLast : x.last = true) :
    x.dismiss.dropEngine.Kept l i c ∧ x.depth = 1 ∧ x.releases = 0 := by
  have hlast := last_iff.1 isLast
  have hdepth := kept.depth
  have honce := kept.once
  have hnone := kept.busy (by omega)
  rw [hlast.2, hnone] at honce
  refine ⟨⟨?_, ?_, ?_, ?_, ?_, ?_, fun _ => rfl, kept.locked⟩, hlast.1, hnone⟩
  · simp [Entry.dismiss, dropEngine, isLast, hnone] at honce ⊢
    omega
  · simp only [Entry.dismiss, dropEngine]
    omega
  · simp only [Entry.dismiss, dropEngine, kept.pins]
  · simp [dropEngine]
  · simp [Entry.dismiss, dropEngine, isLast]
  · simp only [Entry.dismiss, dropEngine]
    omega

theorem Kept.defer (kept : x.Kept l i (c + 1)) (busy : 0 < x.depth) :
    { x with closing := true }.Kept l i c := by
  have honce := kept.once
  have hnone := kept.busy busy
  refine { kept with once := ?_, closing := fun _ => busy }
  show l + c + 1 + x.releases = 1
  omega

theorem Kept.destroy (kept : x.Kept l i (c + 1)) (idle : x.depth = 0) :
    x.dropEngine.Kept l i c ∧ x.releases = 0 := by
  have honce := kept.once
  have hnone : x.releases = 0 := by omega
  refine ⟨{ kept with once := ?_, engine := ?_, busy := ?_, cleared := fun _ => rfl }, hnone⟩
  · show l + c + x.closing.toNat + (x.releases + 1) = 1
    omega
  · simp [dropEngine]
  · intro h
    exact absurd h (by simp [dropEngine, idle])

end Entry

namespace View.Change

variable {t : ThreadId} {v v' : View C} {x : Entry C} {i c : Nat}

/-- A change keeps an entry with its counts, of which `i` and `c` belong to other threads. -/
theorem kept (change : View.Change t v v') (entry : v.entry = some x)
    (key : x.Kept v.listed (i + v.inside) (c + v.leaving)) (lock : v.holds = x.holds t) :
    ∃ y, v'.entry = some y ∧ y.Kept v'.listed (i + v'.inside) (c + v'.leaving) ∧
      ∀ s, y.holds s = if s = t then v'.holds else x.holds s := by
  have same (s : ThreadId) : x.holds s = if s = t then v.holds else x.holds s := by
    split_ifs with h
    · rw [lock, h]
    · rfl
  have entry_eq {z : Entry C} (h : v.entry = some z) : z = x := Option.some.inj (h.symm.trans entry)
  cases change with
  | create unused => exact absurd (entry.symm.trans unused) nofun
  | keep eq =>
    subst eq
    exact ⟨x, entry, key, same⟩
  | @run a inside eq =>
    subst eq
    exact ⟨_, congrArg (Option.map _) entry, key.run (by omega) a, same⟩
  | @gate g eq =>
    subst eq
    exact ⟨_, congrArg (Option.map _) entry, key.gate g, same⟩
  | @publish b inside eq =>
    subst eq
    exact ⟨_, congrArg (Option.map _) entry, key.publish (by omega) b, same⟩
  | grab h free eq =>
    subst eq
    obtain rfl := entry_eq h
    refine ⟨_, rfl, key.grab t, fun s => ?_⟩
    rw [Entry.holds_grab free]
    show _ = if s = t then v.holds + 1 else _
    split_ifs with hs
    · rw [lock, hs]
    · rfl
  | engage op h engine holds eq =>
    subst eq
    obtain rfl := entry_eq h
    exact ⟨_, rfl, key.engage engine op, same⟩
  | @dismiss z n h more inside eq =>
    subst eq
    obtain rfl := entry_eq h
    rw [inside] at key
    exact ⟨_, rfl, Entry.Kept.dismiss key more, same⟩
  | @dismissLast z n h last inside eq =>
    subst eq
    obtain rfl := entry_eq h
    rw [inside] at key
    exact ⟨_, rfl, (Entry.Kept.dismissLast key last).1, same⟩
  | @letGo n holds eq =>
    subst eq
    refine ⟨_, congrArg (Option.map _) entry, key.letGo, fun s => ?_⟩
    have := Entry.holds_letGo (x := x) (t := t) (by omega) s
    show _ = if s = t then n else _
    split_ifs at this ⊢ with hs
    · subst hs
      omega
    · exact this
  | @vacate n listed eq =>
    subst eq
    refine ⟨x, entry, { key with once := ?_ }, same⟩
    have := key.once
    show n + (c + (v.leaving + 1)) + x.closing.toNat + x.releases = 1
    omega
  | @defer z n h busy leaving eq =>
    subst eq
    obtain rfl := entry_eq h
    rw [leaving] at key
    exact ⟨_, rfl, Entry.Kept.defer key busy, same⟩
  | @destroy z n h idle holds leaving eq =>
    subst eq
    obtain rfl := entry_eq h
    rw [leaving] at key
    exact ⟨_, rfl, (Entry.Kept.destroy key idle).1, same⟩

/-- Of an entry that is not there nothing is counted, and a change can only create it. -/
theorem unused (change : View.Change t v v') (unused : v.entry = none) (listed : v.listed = 0)
    (holds : v.holds = 0) (inside : v.inside = 0) :
    v' = v ∨ ∃ a, v' = { v with entry := some (.fresh a), listed := 1 } := by
  have absent {z : Entry C} (h : v.entry = some z) : False := nomatch unused.symm.trans h
  cases change with
  | keep eq => exact Or.inl eq
  | create _ eq =>
    rw [listed] at eq
    exact Or.inr ⟨_, eq⟩
  | gate eq =>
    refine Or.inl (eq.trans ?_)
    rw [unused, Option.map_none, ← unused]
  | run h | publish h | letGo h | vacate h => omega
  | grab h | engage _ h | dismiss h | dismissLast h | defer h | destroy h => exact (absent h).elim

end View.Change

namespace Process

variable {host : Host σ} {p q p' : Process E σ} {t : ThreadId} {th th' : Thread E.Context σ}
  {e : EntryId}

/-! ## What is kept of all entries -/

theorem total_step (th' : Thread E.Context σ) (f : Thread E.Context σ → Nat)
    (threads : p'.threads = p.threads) (at_t : p.threads[t.index]? = some th) :
    (p'.setThread t th').total f + f th = p.total f + f th' := by
  have : p'.total f = p.total f := by
    unfold total
    rw [threads]
  rw [← this]
  exact total_setThread f (threads ▸ at_t)

/-- What every change of entries keeps holds after every run. -/
theorem Run.keeps_of_change {I : Process E σ → Prop} {past : List (Moment E σ)}
    (run : Run host p past q) (sound : p.directory.Sound) (first : I p)
    (kept : ∀ {p p' : Process E σ} {t th th'}, I p → p.threads[t.index]? = some th →
      p'.threads = p.threads → (∀ e, View.Change t (p.view th e) (p'.view th' e)) →
      I (p'.setThread t th')) : I q := by
  refine (run.keeps (I := fun q => q.directory.Sound ∧ I q) ⟨sound, first⟩ ?_).2
  intro p t th p' th' ih at_t act
  have sound : p'.directory.Sound := act.registryStep.sound ih.1
  exact ⟨sound, kept ih.2 at_t act.threads (act.change ih.1)⟩

/-- The counts of an entry fit its state, and the lock is held as often as its owner counts. -/
structure Kept (p : Process E σ) (e : EntryId) : Prop where
  unused : p.entry? e = none →
    p.directory.times e = 0 ∧ p.total (Thread.holds e) = 0 ∧ p.total (Thread.leaving e) = 0
  entry : ∀ {x}, p.entry? e = some x →
    x.Kept (p.directory.times e) (p.total (Thread.inside e)) (p.total (Thread.leaving e))
  locks : ∀ {x t th}, p.entry? e = some x → p.threads[t.index]? = some th →
    th.holds e = x.holds t

theorem total_start (memory : σ) (programs : List (Program σ MethodResult))
    {f : Thread E.Context σ → Nat} (hf : ∀ body, f ⟨.host body, [], []⟩ = 0) :
    (start E memory programs).total f = 0 := by
  simp only [total, start, List.map_map]
  induction programs with
  | nil => rfl
  | cons body rest ih => simpa [hf] using ih

theorem kept_start (memory : σ) (programs : List (Program σ MethodResult)) (e : EntryId) :
    Kept (start E memory programs) e := by
  have hnone : entry? (start E memory programs) e = none := entry?_start memory programs e
  refine ⟨fun _ => ⟨rfl, total_start memory programs fun _ => rfl,
    total_start memory programs fun _ => rfl⟩, ?_, ?_⟩
  · intro x hx
    rw [hnone] at hx
    cases hx
  · intro x t th hx
    rw [hnone] at hx
    cases hx

section Step

variable (threads : p'.threads = p.threads) (at_t : p.threads[t.index]? = some th)

include threads at_t

theorem Kept.step_unused (kept : Kept p e) (unused : p.entry? e = none)
    (change : View.Change t (p.view th e) (p'.view th' e)) : Kept (p'.setThread t th') e := by
  obtain ⟨htimes, hholds, hleaving⟩ := kept.unused unused
  have hinside : p.total (Thread.inside e) = 0 := by
    have := total_le_total (p := p) (Thread.inside_le_holds e)
    omega
  have holds : th.holds e = 0 := by have := le_total (Thread.holds e) at_t; omega
  have inside : th.inside e = 0 := by have := le_total (Thread.inside e) at_t; omega
  have leaving : th.leaving e = 0 := by have := le_total (Thread.leaving e) at_t; omega
  have holds' := total_step th' (Thread.holds e) threads at_t
  have inside' := total_step th' (Thread.inside e) threads at_t
  have leaving' := total_step th' (Thread.leaving e) threads at_t
  rcases change.unused unused htimes holds inside with eq | ⟨a, eq⟩
  all_goals
    simp only [view, View.mk.injEq] at eq
    obtain ⟨h₁, h₂, h₃, h₄, h₅⟩ := eq
  · have hnone : entry? (p'.setThread t th') e = none := h₁.trans unused
    refine ⟨fun _ => ⟨h₂.trans htimes, by omega, by omega⟩, ?_, ?_⟩
    all_goals
      intros
      simp_all
  · have hsome : entry? (p'.setThread t th') e = some (.fresh a) := h₁
    have none_held : (p'.setThread t th').total (Thread.holds e) = 0 := by omega
    refine ⟨fun hnone => absurd (hsome.symm.trans hnone) (Option.some_ne_none _), ?_, ?_⟩
    · intro x hx
      obtain rfl := Option.some.inj (hsome.symm.trans hx)
      have e₁ : (p'.setThread t th').directory.times e = 1 := h₂
      have e₂ : (p'.setThread t th').total (Thread.inside e) = 0 := by omega
      have e₃ : (p'.setThread t th').total (Thread.leaving e) = 0 := by omega
      rw [e₁, e₂, e₃]
      exact Entry.kept_fresh a
    · intro x s ths hx hs
      obtain rfl := Option.some.inj (hsome.symm.trans hx)
      have := le_total (Thread.holds e) hs
      show _ = 0
      omega

theorem Kept.step_entry (kept : Kept p e) {x : Entry E.Context} (entry : p.entry? e = some x)
    (change : View.Change t (p.view th e) (p'.view th' e)) : Kept (p'.setThread t th') e := by
  obtain ⟨i, hi⟩ := Nat.exists_eq_add_of_le' (le_total (Thread.inside e) at_t)
  obtain ⟨c, hc⟩ := Nat.exists_eq_add_of_le' (le_total (Thread.leaving e) at_t)
  have inside' := total_step th' (Thread.inside e) threads at_t
  have leaving' := total_step th' (Thread.leaving e) threads at_t
  have key := kept.entry entry
  rw [hi, hc] at key
  obtain ⟨y, hy, key', locks⟩ := change.kept (i := i) (c := c) entry key (kept.locks entry at_t)
  refine ⟨fun hnone => absurd (hy.symm.trans hnone) (Option.some_ne_none _), ?_, ?_⟩
  · intro z hz
    obtain rfl := Option.some.inj (hy.symm.trans hz)
    have e₁ : (p'.setThread t th').total (Thread.inside e) = i + th'.inside e := by omega
    have e₂ : (p'.setThread t th').total (Thread.leaving e) = c + th'.leaving e := by omega
    rw [e₁, e₂]
    exact key'
  · intro z s ths hz hs
    obtain rfl := Option.some.inj (hy.symm.trans hz)
    rw [locks s]
    split_ifs with hst
    · subst hst
      rw [getElem?_setThread_self (threads ▸ at_t)] at hs
      rw [← Option.some.inj hs]
      rfl
    · rw [getElem?_setThread_ne hst, threads] at hs
      exact kept.locks entry hs

end Step

/-- In every run the counts of every entry fit its state. -/
theorem Run.kept {memory : σ} {programs : List (Program σ MethodResult)}
    {past : List (Moment E σ)} (run : Run host (start E memory programs) past p) (e : EntryId) :
    p.Kept e := by
  refine run.keeps_of_change (I := fun p => p.Kept e) SlotMap.sound_empty
    (kept_start memory programs e) ?_
  intro p p' t th th' kept at_t threads change
  cases entry : p.entry? e with
  | none => exact kept.step_unused threads at_t entry (change e)
  | some x => exact kept.step_entry threads at_t entry (change e)

/-! ## Releases -/

section Releases

variable {x y : Entry E.Context}

/-- An engine is released by the last operation of a closed entry or by a close that finds none
under way. -/
theorem EntryStep.released (step : EntryStep t th e x y) (more : y.releases ≠ x.releases) :
    0 < th.holds e ∧
    ((∃ u r, th.stage = .finish u r ∧ u.entry = e) ∧ x.last = true ∧ y = x.dismiss.dropEngine ∨
      (∃ back, th.stage = .destroy e back) ∧ x.depth = 0 ∧ y = x.dropEngine) := by
  cases step with
  | @finishLast u r stage here last =>
    exact ⟨by simp [stage, here], Or.inl ⟨⟨u, r, stage, here⟩, last, rfl⟩⟩
  | @destroy back stage idle => exact ⟨by simp [stage], Or.inr ⟨⟨back, stage⟩, idle, rfl⟩⟩
  | _ => exact absurd rfl more

theorem Act.log_of_finish (act : Act host p t th p' th') {u : Underway σ}
    {r : Except BridgeFault u.operation.Result} (stage : th.stage = .finish u r)
    (hx : p.entry? u.entry = some x) (last : x.last = true) :
    p'.log = x.dismiss.farewell ++ p.log := by
  cases act <;> simp_all

theorem Act.log_of_destroy (act : Act host p t th p' th') {back : Program σ MethodResult}
    (stage : th.stage = .destroy e back) (hx : p.entry? e = some x) (idle : x.depth = 0) :
    p'.log = x.farewell ++ p.log := by
  cases act <;> simp_all

/-- What is reported as an engine is released is the entry's farewell. -/
theorem Act.released (act : Act host p t th p' th') (hx : p.entry? e = some x)
    (hy : p'.entry? e = some y) (more : y.releases ≠ x.releases) :
    0 < th.holds e ∧
    ((x.last = true ∧ y = x.dismiss.dropEngine ∧ p'.log = x.dismiss.farewell ++ p.log) ∨
      x.depth = 0 ∧ y = x.dropEngine ∧ p'.log = x.farewell ++ p.log) := by
  obtain ⟨z, hz, step⟩ := act.entryStep hx
  obtain rfl := Option.some.inj (hz.symm.trans hy)
  obtain ⟨holds, ⟨⟨u, r, stage, rfl⟩, last, eq⟩ | ⟨⟨back, stage⟩, idle, eq⟩⟩ := step.released more
  · exact ⟨holds, Or.inl ⟨last, eq, act.log_of_finish stage hx last⟩⟩
  · exact ⟨holds, Or.inr ⟨idle, eq, act.log_of_destroy stage hx idle⟩⟩

end Releases

theorem shared_notMem_farewell {x : Entry E.Context} (h : x.pins = 0) :
    Event.shared ∉ x.farewell := by
  unfold Entry.farewell
  cases x.engine <;> simp [h]

/-- Where an engine has no references besides those of operations, none is shared as it is let
go. -/
theorem Act.shared_notMem (act : Act host p t th p' th')
    (pins : ∀ {e x}, p.entry? e = some x → x.pins = x.depth) (h : Event.shared ∉ p.log) :
    Event.shared ∉ p'.log := by
  cases act with
  | events => exact List.not_mem_nil
  | findRefused stage found named check =>
    simp only [log_report, List.mem_append, List.mem_reverse, h, or_false]
    unfold Refusal.events
    split <;> simp
  | publish =>
    simp only [log_report, log_modifyEntry, List.mem_append, List.mem_reverse, h, or_false]
    unfold Switchboard.commitEvents
    split <;> simp
  | finishLast stage entry last =>
    simp only [log_report, log_modifyEntry, List.mem_append, List.mem_reverse, h, or_false]
    refine shared_notMem_farewell ?_
    have hdepth := pins entry
    have hlast := Entry.last_iff.1 last
    simp only [Entry.dismiss]
    omega
  | destroy stage entry idle =>
    simp only [log_report, log_modifyEntry, List.mem_append, List.mem_reverse, h, or_false]
    exact shared_notMem_farewell ((pins entry).trans idle)
  | leave => split_ifs <;> exact h
  | drop => split_ifs <;> simp [h]
  | _ => simp [h, Invocation.event]

theorem Run.shared_notMem {memory : σ} {programs : List (Program σ MethodResult)}
    {past : List (Moment E σ)} (run : Run host (start E memory programs) past p) :
    Event.shared ∉ p.log := by
  induction run with
  | refl => exact List.not_mem_nil
  | step run next ih =>
    obtain ⟨th, p', th', at_t, act, rfl⟩ := step?_eq_some_iff.1 next
    exact act.shared_notMem (fun entry => ((run.kept _).entry entry).pins) ih

/-- In the step from `p` to `q` the engine of an entry is released, for the first time: the thread
has the lock, no operation is inside, nothing else refers to the engine and it is destroyed. -/
structure Released (p q : Process E σ) (t : ThreadId) (e : EntryId) (x y : Entry E.Context) :
    Prop where
  first : x.releases = 0 ∧ y.releases = 1
  engine : x.engine.isSome ∧ y.engine = none
  cleared : y.board.published = []
  locked : ∃ n, y.lock = some (t, n)
  empty : y.depth = 0 ∧ ∀ {s : ThreadId} {th}, q.threads[s.index]? = some th → th.inside e = 0
  unshared : y.pins = 0 ∧ q.log = .destroyed :: p.log

theorem Run.released {memory : σ} {programs : List (Program σ MethodResult)}
    {past : List (Moment E σ)} (run : Run host (start E memory programs) past p)
    (next : p.step? host t = some q) {x y : Entry E.Context} (hx : p.entry? e = some x)
    (hy : q.entry? e = some y) (more : y.releases ≠ x.releases) : Released p q t e x y := by
  have kept' := (run.step next).kept e
  have kept := run.kept e
  obtain ⟨th, p', th', at_t, act, rfl⟩ := step?_eq_some_iff.1 next
  have key := kept.entry hx
  have key' := kept'.entry hy
  obtain ⟨holds, cases⟩ := act.released hx hy more
  rw [kept.locks hx at_t] at holds
  obtain ⟨n, lock⟩ := Entry.lock_of_holds holds
  have empty (idle : y.depth = 0) {s : ThreadId} {ths : Thread E.Context σ}
      (hs : (p'.setThread t th').threads[s.index]? = some ths) : ths.inside e = 0 := by
    have := le_total (Thread.inside e) hs
    have := key'.depth
    omega
  have farewell {z : Entry E.Context} (engine : z.engine = x.engine) (none : x.releases = 0)
      (pins : z.pins = 0) : z.farewell = [.destroyed] := by
    obtain ⟨c, hc⟩ := Option.isSome_iff_exists.1 (key.engine.2 none)
    simp [Entry.farewell, engine, hc, pins]
  rcases cases with ⟨last, rfl, log⟩ | ⟨idle, rfl, log⟩
  · have hlast := Entry.last_iff.1 last
    have none := key.busy (by omega)
    have pins : x.dismiss.pins = 0 := by
      have := key.pins
      simp only [Entry.dismiss]
      omega
    have depth : x.dismiss.dropEngine.depth = 0 := by
      simp only [Entry.dropEngine, Entry.dismiss]
      omega
    rw [farewell (z := x.dismiss) rfl none pins] at log
    exact ⟨⟨none, congrArg (· + 1) none⟩, ⟨key.engine.2 none, rfl⟩, rfl, ⟨n, lock⟩,
      ⟨depth, empty depth⟩, ⟨pins, log⟩⟩
  · have once := key'.once
    have none : x.releases = 0 := by
      simp only [Entry.dropEngine] at once
      omega
    have pins : x.pins = 0 := key.pins.trans idle
    rw [farewell rfl none pins] at log
    exact ⟨⟨none, congrArg (· + 1) none⟩, ⟨key.engine.2 none, rfl⟩, rfl, ⟨n, lock⟩,
      ⟨idle, empty idle⟩, ⟨pins, log⟩⟩

/-- No operation is inside the engine of an entry, and no close of it is under way. -/
def Idle (p : Process E σ) (e : EntryId) : Prop :=
  ∀ {t : ThreadId} {th}, p.threads[t.index]? = some th →
    th.inside e = 0 ∧ th.leaving e = 0 ∧ ∀ h, th.vacating? = some h → p.directory.get? h ≠ some e

/-- As long as handles have room for the slots, no engine is released but that of a closed
interpreter, and once nothing is under way it was. -/
theorem Run.releases_iff {memory : σ} {programs : List (Program σ MethodResult)}
    {past : List (Moment E σ)} (run : Run host (start E memory programs) past p)
    (room : p.directory.slots.size ≤ 2 ^ 32) {x : Entry E.Context} (hx : p.entry? e = some x) :
    (0 < x.releases → Closed past ⟨e.index⟩) ∧
      (p.Idle e → (Closed past ⟨e.index⟩ → x.releases = 1) ∧
        (¬ Closed past ⟨e.index⟩ → x.releases = 0)) := by
  have reg := run.registered room
  have key := (run.kept e).entry hx
  have once := key.once
  obtain ⟨i, hi⟩ : ∃ i, p.interpreter? ⟨e.index⟩ = some i := by
    have : e.index < p.interpreters.size :=
      reg.sizes ▸ isSome_entry?_iff.1 (Option.isSome_of_eq_some hx)
    exact ⟨_, Array.getElem?_eq_getElem this⟩
  have closed : Closed past ⟨e.index⟩ ↔ i.word = 0 := by simp [run.closed_iff, hi]
  -- an interpreter that is not closed is listed, so its engine is there
  have listed (h : i.word ≠ 0) : x.releases = 0 := by
    have : 0 < p.directory.times e := SlotMap.times_pos (reg.live hi h)
    omega
  refine ⟨fun h => ?_, fun idle => ⟨fun h => ?_, fun h => listed fun hw => h (closed.2 hw)⟩⟩
  · by_contra hc
    have := listed fun hw => hc (closed.2 hw)
    omega
  · have inside : x.depth = 0 := key.depth.trans (total_eq_zero fun ht => (idle ht).1)
    have leaving : p.total (Thread.leaving e) = 0 := total_eq_zero fun ht => (idle ht).2.1
    have closing : x.closing = false := by
      by_contra hc
      have := key.closing (by simpa using hc)
      omega
    have unlisted : p.directory.times e = 0 := by
      by_contra hl
      obtain ⟨k, hk⟩ := SlotMap.exists_get? room (Nat.pos_of_ne_zero hl)
      rcases reg.listed hk with ⟨i', hi', hw, -⟩ | ⟨s, hs⟩
      · rw [hi, Option.some_inj] at hi'
        exact hw (hi' ▸ closed.1 h)
      · obtain ⟨ths, hths, hv⟩ := Option.bind_eq_some_iff.1 hs
        exact (idle hths).2.2 k hv hk
    rw [unlisted, leaving, closing] at once
    simpa using once

/-- Each engine is released once at most, in the state that `Released` describes, and never while it
is shared.  An entry belongs to an interpreter, and as long as handles have room for the slots, its
engine is released only if this interpreter was closed, and has been released then as soon as
nothing is under way. -/
theorem engines_released_once {memory : σ} {programs : List (Program σ MethodResult)}
    {past : List (Moment E σ)} (run : Run host (start E memory programs) past p) :
    (∀ {t q e x y}, p.step? host t = some q → p.entry? e = some x → q.entry? e = some y →
      y.releases ≠ x.releases → Released p q t e x y) ∧
    Event.shared ∉ p.log ∧
    ∀ {e x}, p.entry? e = some x → x.releases ≤ 1 ∧
      ∃ js, Own host past js e ∧ (p.directory.slots.size ≤ 2 ^ 32 →
        (0 < x.releases → Closed past js) ∧
        (p.Idle e → (Closed past js → x.releases = 1) ∧ (¬ Closed past js → x.releases = 0))) := by
  refine ⟨fun next hx hy more => run.released next hx hy more, run.shared_notMem,
    fun {e x} hx => ?_⟩
  have once := ((run.kept e).entry hx).once
  exact ⟨by omega, ⟨e.index⟩, run.own (by rw [hx]; rfl), fun room => run.releases_iff room hx⟩

/-- Every method of this host closes the first interpreter. -/
def closer : Host Unit where
  facets _ _ := ⟨fun _ => true, fun _ => true⟩
  invoke _ _ _ := .ask (.close ⟨0⟩) fun _ => .done (.ok .void)

/-- A script calls a method of the host. -/
def visit : Process .relay Unit :=
  start .relay ()
    [.ask (.create default) fun _ =>
      .ask (.use ⟨0⟩ (.bind "door" ⟨"Door", false, [], [⟨"shut", [], .void⟩]⟩ ⟨0⟩)) fun _ =>
      .ask (.use ⟨0⟩ (.evaluate "door.shut()" none)) fun _ => .done (.ok .void)]

/-- Closed by a method that its script calls, an interpreter lets its engine go as the evaluation
ends. -/
theorem engines_released_once_reentrant :
    ∃ (p q : Process .relay Unit) (x y : Entry Engine.relay.Context),
      x.closing = true ∧ Released p q ⟨0⟩ ⟨0⟩ x y := by
  obtain ⟨p, q, x, y, reached, next, hx, hy, closing, more⟩ :
      ∃ (p q : Process .relay Unit) (x y : Entry Engine.relay.Context),
        visit.follow closer (List.replicate 26 ⟨0⟩) = some p ∧ p.step? closer ⟨0⟩ = some q ∧
        p.entry? ⟨0⟩ = some x ∧ q.entry? ⟨0⟩ = some y ∧ x.closing = true ∧
        y.releases ≠ x.releases :=
    ⟨_, _, _, _, rfl, rfl, rfl, rfl, rfl, by decide⟩
  exact ⟨p, q, x, y, closing, (engines_released_once (.of_follow reached)).1 next hx hy more⟩

end Process

end Drawbridge
