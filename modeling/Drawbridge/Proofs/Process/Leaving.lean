import Drawbridge.Proofs.Process.Closing
import Drawbridge.Proofs.Process.Courses

/-!
# The end of a scope

However the body of a scope comes to its end, its interpreter is closed and given up
(`Program.leaving`).  This changes the interpreter with its entry and nothing else (`Spares`); the
interpreter is closed by then, so that it is given up without a warning (`Course.leaves`).  As long
as no other thread has the lock of the entry the thread gets through on its own
(`Run.leaving_returns`).
-/

namespace Drawbridge

variable {C : Type} {E : Engine} {σ α : Type}

/-- The end of a scope, whatever came of its body. -/
def Program.leaving (js : InterpreterId) (r : Except Panic α) :
    Program σ (Except Panic (Except BridgeFault α)) :=
  (close js).bind fun _ => (drop js).bind fun _ => done (r.map .ok)

/-- A thread at this stage closes the interpreter of an entry, and goes on with `back`. -/
inductive Stage.Closing (h : Handle) (e : EntryId) (back : Program σ MethodResult) :
    Stage C σ → Prop
  | vacate : Closing h e back (.vacate h back)
  | lock : Closing h e back (.lockToClose e back)
  | destroy : Closing h e back (.destroy e back)
  | unlock : Closing h e back (.unlockClosed e back)
  | closed : Closing h e back (.host back)

namespace Process

variable {host : Host σ} {p p' q r : Process E σ} {t : ThreadId} {th th' : Thread E.Context σ}
  {past : List (Moment E σ)} {l : Station E σ} {js : InterpreterId} {e : EntryId} {h : Handle}
  {back : Program σ MethodResult}

/-! ## What the end of a scope leaves alone -/

/-- From `p` to `q` nothing has changed but the interpreter and its entry, and that no interpreter
was given up without a close. -/
structure Spares (js : InterpreterId) (e : EntryId) (p q : Process E σ) : Prop where
  entries : ∀ e', e' ≠ e → q.entry? e' = p.entry? e'
  handles : ∀ h, p.directory.get? h ≠ some e → q.directory.get? h = p.directory.get? h
  interpreters : ∀ js', js' ≠ js → q.interpreter? js' = p.interpreter? js'
  memory : q.memory = p.memory
  unleaked : ∃ events, q.log = events ++ p.log ∧ Event.leaked ∉ events

theorem Spares.setThread (spares : Spares js e p q) (t : ThreadId) (th : Thread E.Context σ) :
    Spares js e p (q.setThread t th) where
  entries := spares.entries
  handles := spares.handles
  interpreters := spares.interpreters
  memory := spares.memory
  unleaked := spares.unleaked

theorem Spares.refl (js : InterpreterId) (e : EntryId) (p : Process E σ) : Spares js e p p :=
  ⟨fun _ _ => rfl, fun _ _ => rfl, fun _ _ => rfl, rfl, [], rfl, List.not_mem_nil⟩

theorem Spares.trans (first : Spares js e p q) (second : Spares js e q r) : Spares js e p r where
  entries e' he := (second.entries e' he).trans (first.entries e' he)
  handles h hh := by
    have same := first.handles h hh
    exact (second.handles h (same ▸ hh)).trans same
  interpreters js' hjs := (second.interpreters js' hjs).trans (first.interpreters js' hjs)
  memory := second.memory.trans first.memory
  unleaked := by
    obtain ⟨events, log, unleaked⟩ := first.unleaked
    obtain ⟨events', log', unleaked'⟩ := second.unleaked
    exact ⟨events' ++ events, by rw [log', log, List.append_assoc], by simp [unleaked, unleaked']⟩

theorem spares_modifyEntry (js : InterpreterId) (p : Process E σ)
    (f : Entry E.Context → Entry E.Context) {events : List Event} (h : Event.leaked ∉ events) :
    Spares js e p ((p.modifyEntry e f).report events) where
  entries e' he := by rw [entry?_report, entry?_modify_of_ne f (Ne.symm he)]
  handles _ _ := rfl
  interpreters _ _ := rfl
  memory := rfl
  unleaked := ⟨events.reverse, rfl, by simpa using h⟩

theorem spares_nullify (e : EntryId) (p : Process E σ) : Spares js e p (p.nullify js) where
  entries _ _ := rfl
  handles _ _ := rfl
  interpreters js' hjs := by rw [interpreter?_nullify, if_neg hjs]
  memory := rfl
  unleaked := ⟨[], rfl, List.not_mem_nil⟩

theorem leaked_notMem_farewell (x : Entry E.Context) : Event.leaked ∉ x.farewell := by
  unfold Entry.farewell
  cases x.engine with
  | none => exact List.not_mem_nil
  | some c => by_cases hp : x.pins = 0 <;> simp [hp]

/-- A close goes on with the entry that its handle leads to. -/
theorem Act.of_closing (act : Act host p t th p' th') (closing : th.stage.Closing h e back)
    (off : th.stage.isHost = false)
    (leads : p.directory.get? h = some e ∨ p.directory.get? h = none) (js : InterpreterId) :
    th'.calls = th.calls ∧ th'.active = th.active ∧ th'.stage.Closing h e back ∧
      Spares js e p p' := by
  generalize stage : th.stage = s at closing off
  cases closing with
  | closed => cases off
  | vacate =>
    cases act with
    | vacateNone stage' =>
      obtain ⟨rfl, rfl⟩ := Stage.vacate.inj (stage.symm.trans stage')
      exact ⟨rfl, rfl, .closed, .refl js e p⟩
    | @vacate _ _ e' stage' found =>
      obtain ⟨rfl, rfl⟩ := Stage.vacate.inj (stage.symm.trans stage')
      obtain rfl : e' = e := by
        rcases leads with leads | leads <;> simp_all
      refine ⟨rfl, rfl, .lock, fun _ _ => rfl, fun h' hh => ?_, fun _ _ => rfl, rfl, [], rfl,
        List.not_mem_nil⟩
      show (p.directory.remove h).2.get? h' = _
      rw [SlotMap.get?_remove, if_neg]
      rintro rfl
      exact hh found
    | _ => simp_all
  | lock =>
    cases act with
    | lockToClose stage' =>
      obtain ⟨rfl, rfl⟩ := Stage.lockToClose.inj (stage.symm.trans stage')
      have unleaked : Event.leaked ∉ [] := List.not_mem_nil
      exact ⟨rfl, rfl, .destroy, spares_modifyEntry js p _ unleaked⟩
    | _ => simp_all
  | destroy =>
    cases act with
    | defer stage' =>
      obtain ⟨rfl, rfl⟩ := Stage.destroy.inj (stage.symm.trans stage')
      exact ⟨rfl, rfl, .unlock, spares_modifyEntry js p _ (by simp)⟩
    | destroy stage' =>
      obtain ⟨rfl, rfl⟩ := Stage.destroy.inj (stage.symm.trans stage')
      exact ⟨rfl, rfl, .unlock, spares_modifyEntry js p _ (leaked_notMem_farewell _)⟩
    | _ => simp_all
  | unlock =>
    cases act with
    | unlockClosed stage' =>
      obtain ⟨rfl, rfl⟩ := Stage.unlockClosed.inj (stage.symm.trans stage')
      exact ⟨rfl, rfl, .closed, spares_modifyEntry js p _ (by simp)⟩
    | _ => simp_all

/-- In all of a run the steps of a thread leave alone what is not of the interpreter. -/
def SparesOf (host : Host σ) (t : ThreadId) (js : InterpreterId) (e : EntryId)
    (past : List (Moment E σ)) : Prop :=
  ∀ m ∈ past, m.thread = t → ∀ r, m.process.step? host t = some r → Spares js e m.process r

theorem sparesOf_waits (waits : Waits host t p past q) : SparesOf host t js e past :=
  fun m hm own => absurd own (waits.others m hm)

theorem SparesOf.append {past' : List (Moment E σ)} (second : SparesOf host t js e past')
    (first : SparesOf host t js e past) : SparesOf host t js e (past' ++ past) := by
  intro m hm
  rcases List.mem_append.1 hm with hm | hm
  · exact second m hm
  · exact first m hm

theorem SparesOf.step {s : ThreadId} (first : SparesOf host t js e past)
    (spares : s = t → ∀ r, q.step? host t = some r → Spares js e q r) :
    SparesOf host t js e (⟨q, s⟩ :: past) := by
  intro m hm
  rcases List.mem_cons.1 hm with rfl | hm
  · exact spares
  · exact first m hm

/-- What a thread leaves alone in each step it leaves alone in a run of its own. -/
theorem SparesOf.run (spares : SparesOf host t js e past) (run : Run host p past q)
    (own : ∀ m ∈ past, m.thread = t) : Spares js e p q := by
  induction run with
  | refl => exact .refl js e _
  | @step past q r s run next ih =>
    obtain rfl : s = t := own _ (List.mem_cons_self ..)
    have before := ih (fun m hm => spares m (List.mem_cons_of_mem _ hm))
      (fun m hm => own m (List.mem_cons_of_mem _ hm))
    exact before.trans (spares _ (List.mem_cons_self ..) rfl r next)

/-- Until a thread that closes an interpreter is back it is on its way with the entry. -/
theorem Run.closing (run : Run host p past q) (js : InterpreterId) {stage : Stage E.Context σ}
    (on : l.On stage p) (closing : stage.Closing h e back)
    (within : ∀ m ∈ past, l.home m.process = false)
    (leads : ∀ m ∈ past, m.process.directory.get? h = some e ∨ m.process.directory.get? h = none) :
    (∃ stage', l.On stage' q ∧ stage'.Closing h e back) ∧ SparesOf host l.thread js e past := by
  induction run with
  | refl => exact ⟨⟨stage, on, closing⟩, nofun⟩
  | @step past q r t run next ih =>
    obtain ⟨⟨stage', on', closing'⟩, spares⟩ := ih
      (fun m hm => within m (List.mem_cons_of_mem _ hm))
      (fun m hm => leads m (List.mem_cons_of_mem _ hm))
    by_cases own : t = l.thread
    · subst own
      obtain ⟨th, q', th', at_t, act, rfl⟩ := step?_eq_some_iff.1 next
      obtain rfl := Option.some.inj (at_t.symm.trans on')
      have off := within _ (List.mem_cons_self ..)
      rw [Station.home_eq at_t, beq_self_eq_true, Bool.and_true] at off
      obtain ⟨calls, active, closing'', spared⟩ :=
        act.of_closing closing' off (leads _ (List.mem_cons_self ..)) js
      obtain ⟨stage'', calls', active'⟩ := th'
      obtain rfl : calls' = l.calls := calls
      obtain rfl : active' = l.active := active
      refine ⟨⟨stage'', getElem?_setThread_self (act.threads ▸ at_t), closing''⟩,
        spares.step fun _ r next' => ?_⟩
      obtain rfl := Option.some.inj (next.symm.trans next')
      exact spared.setThread _ _
    · exact ⟨⟨stage', on'.of_ne next own, closing'⟩,
        spares.step fun h => absurd h own⟩

/-! ## The way out -/

section Leaving

variable {memory : σ} {programs : List (Program σ MethodResult)} {earlier : List (Moment E σ)}
  {a a' z : Process E σ} {before away after : List (Moment E σ)}

theorem Run.isSome_interpreter? (run : Run host p past q) (there : (p.interpreter? js).isSome) :
    (q.interpreter? js).isSome := by
  obtain ⟨i, hi⟩ := Option.isSome_iff_exists.1 there
  obtain ⟨i', hi'⟩ := run.exists_interpreter hi
  rw [hi']
  rfl

theorem Run.null_of_null (run : Run host p past q) (there : (p.interpreter? js).isSome)
    (null : (p.handleOf js).isNull = true) : (q.handleOf js).isNull = true := by
  obtain ⟨i, hi⟩ := Option.isSome_iff_exists.1 there
  exact run.isNull_handleOf hi null

theorem isNull_handleOf_nullify (there : (p.interpreter? js).isSome) (t : ThreadId)
    (th : Thread E.Context σ) : (((p.nullify js).setThread t th).handleOf js).isNull = true := by
  obtain ⟨i, hi⟩ := Option.isSome_iff_exists.1 there
  have hi' : ((p.nullify js).setThread t th).interpreter? js = some { i with word := 0 } := by
    show (p.nullify js).interpreter? js = _
    rw [interpreter?_nullify, if_pos rfl, hi]
    rfl
  exact (isNull_handleOf_iff hi').2 rfl

section Close

variable {rest : (Request.close js).Reply → Program σ MethodResult}
  {reply : (Request.close js).Reply}
  (exchange : Exchange host l rest p past q reply a a' z before away after)

include exchange

theorem Exchange.nullifies : ∃ th, a' = (a.nullify js).setThread l.thread th := by
  rcases step?_close exchange.asks rfl exchange.next with h | ⟨-, h⟩ <;> exact ⟨_, h⟩

theorem Exchange.closes (there : (a.interpreter? js).isSome) : Closed past js := by
  refine ⟨⟨a, l.thread⟩, by simp [exchange.parts], ?_, there⟩
  show (a.threads[l.thread.index]?.bind Thread.closing?) = some js
  rw [show a.threads[l.thread.index]? = _ from exchange.asks]
  rfl

/-- On its way to take the engine away a thread comes to the entry of the interpreter. -/
theorem Exchange.spares_away (reached : Run host (start E memory programs) earlier p)
    (room : q.directory.slots.size ≤ 2 ^ 32) : SparesOf host l.thread js ⟨js.index⟩ away := by
  cases live : (a.handleOf js).isNull with
  | true =>
    rw [(exchange.answer () (if_pos live)).2]
    exact nofun
  | false =>
    have on : l.On (.vacate (a.handleOf js) (rest ())) a' := by
      rw [(Act.close rfl live).eq_of_step? exchange.asks exchange.next]
      exact Station.On.setThread (p := a.nullify js) exchange.asks
    refine (exchange.run.closing js on .vacate exchange.within fun m hm => ?_).2
    obtain ⟨first, last, run, rest, rfl⟩ := exchange.run.split hm
    have onwards := (Run.refl.step exchange.next).trans run
    have room' := Nat.le_trans (rest.trans exchange.then_waits.run).size_le room
    exact ((reached.trans exchange.waits.run).owned_handleOf live onwards room').get?

/-- A close changes the interpreter, which is closed from its first step on, and its entry. -/
theorem Exchange.close (reached : Run host (start E memory programs) earlier p)
    (room : q.directory.slots.size ≤ 2 ^ 32) (there : (p.interpreter? js).isSome) :
    (q.handleOf js).isNull = true ∧ SparesOf host l.thread js ⟨js.index⟩ past ∧
      Closed past js := by
  have there_a := exchange.waits.run.isSome_interpreter? there
  obtain ⟨th, nullified⟩ := exchange.nullifies
  have null := (exchange.run.trans exchange.then_waits.run).null_of_null
    ((Run.refl.step exchange.next).isSome_interpreter? there_a)
    (nullified ▸ isNull_handleOf_nullify there_a _ _)
  have first : ∀ r, a.step? host l.thread = some r → Spares js ⟨js.index⟩ a r := by
    intro r next
    obtain rfl := Option.some.inj (exchange.next.symm.trans next)
    rw [nullified]
    exact (spares_nullify _ a).setThread _ _
  refine ⟨null, ?_, exchange.closes there_a⟩
  rw [exchange.parts]
  exact (sparesOf_waits exchange.then_waits).append ((exchange.spares_away reached room).append
    ((sparesOf_waits exchange.waits).step fun _ => first))

end Close

/-- An interpreter that is closed is given up without a warning. -/
theorem Exchange.drop {rest : (Request.drop js).Reply → Program σ MethodResult}
    {reply : (Request.drop js).Reply}
    (exchange : Exchange host l rest p past q reply a a' z before away after)
    (there : (p.interpreter? js).isSome) (null : (p.handleOf js).isNull = true) (e : EntryId) :
    SparesOf host l.thread js e past := by
  have null_a := exchange.waits.run.null_of_null there null
  obtain ⟨-, rfl, -⟩ := exchange.at_once rfl
  rw [exchange.parts]
  refine (sparesOf_waits exchange.then_waits).append
    ((sparesOf_waits exchange.waits).step fun _ r next => ?_)
  have h := (Act.drop rfl).eq_of_step? exchange.asks next
  rw [if_pos null_a] at h
  rw [h]
  exact (Spares.refl js e a).setThread _ _

/-- The end of a scope closes the interpreter and leaves everything else alone; what came of the
body is passed on. -/
theorem Course.leaves {outer : Except Panic (Except BridgeFault α) → Program σ MethodResult}
    {r : Except Panic α} {result : Except Panic (Except BridgeFault α)}
    (reached : Run host (start E memory programs) earlier p)
    (course : Course host l outer p (.leaving js r) past q (.done result))
    (room : q.directory.slots.size ≤ 2 ^ 32) (there : (p.interpreter? js).isSome) :
    result = r.map .ok ∧ (q.handleOf js).isNull = true ∧
      SparesOf host l.thread js ⟨js.index⟩ past ∧ Closed past js := by
  obtain ⟨u, m, past₁, past₂, closing, second, rfl⟩ := course.of_bind_done
  obtain ⟨u', m', past₃, past₄, dropping, third, rfl⟩ := second.of_bind_done
  obtain ⟨done, waits⟩ := third.of_done
  have there_m := closing.run.isSome_interpreter? there
  rcases closing.of_request (.close js) with ⟨h, -⟩ | ⟨_, _, _, _, _, _, _, -, exchange⟩
  · cases h
  rcases dropping.of_request (.drop js) with ⟨h, -⟩ | ⟨_, _, _, _, _, _, _, -, exchange'⟩
  · cases h
  have room' := Nat.le_trans (dropping.run.trans waits.run).size_le room
  obtain ⟨null, spares, m₀, hm₀, closes⟩ := exchange.close reached room' there
  refine ⟨Program.done.inj done, (dropping.run.trans waits.run).null_of_null there_m null,
    ((sparesOf_waits waits).append (exchange'.drop there_m null _)).append spares,
    m₀, List.mem_append_right _ hm₀, closes⟩

end Leaving

/-! ## Getting through -/

/-- An entry is locked by the thread that acts, or by the one that had the lock before. -/
theorem lock_of_change {v v' : View C} (change : View.Change t v v') {y : Entry C}
    (hy : v'.entry = some y) {owner : ThreadId} {n : Nat} (lock : y.lock = some (owner, n)) :
    owner = t ∨ ∃ x m, v.entry = some x ∧ x.lock = some (owner, m) := by
  cases change with
  | keep eq | vacate listed eq =>
    subst eq
    exact Or.inr ⟨y, n, hy, lock⟩
  | create unused eq =>
    subst eq
    obtain rfl := Option.some.inj hy
    cases lock
  | run inside eq | gate eq | publish inside eq =>
    subst eq
    obtain ⟨x, hx, rfl⟩ := Option.map_eq_some_iff.1 hy
    exact Or.inr ⟨x, n, hx, lock⟩
  | letGo holds eq =>
    subst eq
    obtain ⟨x, hx, rfl⟩ := Option.map_eq_some_iff.1 hy
    refine Or.inr ⟨x, ?_⟩
    simp only [Entry.letGo] at lock
    split at lock
    · next owner' m hl =>
      split_ifs at lock
      obtain ⟨rfl, -⟩ := Prod.mk.inj (Option.some.inj lock)
      exact ⟨m, hx, hl⟩
    · cases lock
  | grab entry free eq =>
    subst eq
    obtain rfl := Option.some.inj hy
    exact Or.inl (Prod.mk.inj (Option.some.inj lock)).1.symm
  | engage op entry engine holds eq | dismiss entry more inside eq
  | dismissLast entry last inside eq | defer entry busy leaving eq
  | destroy entry idle holds leaving eq =>
    subst eq
    obtain rfl := Option.some.inj hy
    exact Or.inr ⟨_, n, entry, lock⟩

section Through

variable {memory : σ} {programs : List (Program σ MethodResult)} {x : Entry E.Context}

/-- A lock is had by a thread of the process. -/
theorem Run.exists_owner (run : Run host (start E memory programs) past p)
    (hx : p.entry? e = some x) {owner : ThreadId} {n : Nat} (lock : x.lock = some (owner, n)) :
    ∃ th, p.threads[owner.index]? = some th := by
  have key : ∀ x owner n, p.entry? e = some x → x.lock = some (owner, n) →
      owner.index < p.threads.size := by
    refine run.keeps_of_change (I := fun p => ∀ x owner n, p.entry? e = some x →
      x.lock = some (owner, n) → owner.index < p.threads.size) SlotMap.sound_empty ?_ ?_
    · intro x owner n hx
      rw [entry?_start] at hx
      cases hx
    · intro p p' t th th' ih at_t threads change y owner n hy lock
      rw [threads_setThread, Array.size_setIfInBounds, threads]
      rcases lock_of_change (change e) hy lock with rfl | ⟨x, m, hx, lock'⟩
      · exact (Array.getElem?_eq_some_iff.1 at_t).1
      · exact ih x owner m hx lock'
  exact ⟨_, Array.getElem?_eq_getElem (key x owner n hx lock)⟩

/-- No thread but `t` has the lock of an entry. -/
def FreeBesides (p : Process E σ) (t : ThreadId) (e : EntryId) : Prop :=
  ∀ {s : ThreadId} {th}, s ≠ t → p.threads[s.index]? = some th → th.holds e = 0

/-- The lock of an entry is open to a thread if no other has it. -/
theorem Run.open_of_others (run : Run host (start E memory programs) past p)
    (hx : p.entry? e = some x) (others : p.FreeBesides t e) : x.Open t := by
  intro owner n lock
  by_contra other
  obtain ⟨th, at_owner⟩ := run.exists_owner hx lock
  have none := others other at_owner
  have held := ((run.kept e).entry hx).locked owner n lock
  rw [(run.kept e).locks hx at_owner, Entry.holds, lock] at none
  simp only [if_true] at none
  omega

/-- On its own, and in so many steps at most, the thread comes to this program at its station. -/
def Reaches (host : Host σ) (l : Station E σ) (body : Program σ MethodResult) (k : Nat)
    (p : Process E σ) : Prop :=
  ∃ n ≤ k, ∃ z, p.follow host (List.replicate n l.thread) = some z ∧ l.At body z

theorem Reaches.of_act {body : Program σ MethodResult} {k : Nat}
    (act : Act host p l.thread th p' th') (at_l : p.threads[l.thread.index]? = some th)
    (rest : Reaches host l body k (p'.setThread l.thread th')) : Reaches host l body (k + 1) p := by
  obtain ⟨n, hn, z, reached, here⟩ := rest
  refine ⟨n + 1, Nat.succ_le_succ hn, z, ?_, here⟩
  rw [List.replicate_succ, follow, act.step?_eq at_l]
  exact reached

section Steps

variable {body : Program σ MethodResult} {k : Nat}

theorem reaches_of_drop (here : l.At (.ask (.drop js) fun _ => body) p) :
    Reaches host l body 1 p := by
  refine .of_act (.drop rfl) here ⟨0, Nat.le_refl 0, _, rfl, ?_⟩
  split_ifs
  · exact Station.On.setThread here
  · exact Station.On.setThread (p := p.report _) here

variable (rest : ∀ {q}, l.At back q → Reaches host l body k q)

include rest

theorem reaches_of_unlockClosed (on : l.On (.unlockClosed e back) p) :
    Reaches host l body (k + 1) p :=
  .of_act (.unlockClosed rfl) on
    (rest (Station.On.setThread (p := (p.modifyEntry e Entry.letGo).report _) on))

theorem reaches_of_destroy (on : l.On (.destroy e back) p) (hx : p.entry? e = some x) :
    Reaches host l body (k + 2) p := by
  rcases Nat.eq_zero_or_pos x.depth with idle | busy
  · exact .of_act (.destroy rfl hx idle) on (reaches_of_unlockClosed rest
      (Station.On.setThread (p := (p.modifyEntry e Entry.dropEngine).report _) on))
  · exact .of_act (.defer rfl hx busy) on (reaches_of_unlockClosed rest
      (Station.On.setThread (p := (p.modifyEntry e _).report _) on))

theorem reaches_of_lockToClose (on : l.On (.lockToClose e back) p) (hx : p.entry? e = some x)
    (free : x.Open l.thread) : Reaches host l body (k + 3) p := by
  refine .of_act (.lockToClose rfl hx free) on (reaches_of_destroy rest (x := x.grab l.thread)
    (Station.On.setThread (p := p.modifyEntry e _) on) (entry?_modify _ hx))

theorem reaches_of_vacate (on : l.On (.vacate h back) p) (found : p.directory.get? h = some e)
    (hx : p.entry? e = some x) (free : x.Open l.thread) : Reaches host l body (k + 4) p :=
  .of_act (.vacate rfl found) on (reaches_of_lockToClose rest
    (Station.On.setThread (p := { p with directory := (p.directory.remove h).2 }) on) hx free)

end Steps

/-- Nothing holds the end of a scope up as long as no other thread has the lock of its entry. -/
theorem Run.leaving_returns {r : Except Panic α}
    {outer : Except Panic (Except BridgeFault α) → Program σ MethodResult}
    (run : Run host (start E memory programs) past p) (room : p.directory.slots.size ≤ 2 ^ 32)
    (here : l.At ((Program.leaving js r).bind outer) p)
    (others : p.FreeBesides l.thread ⟨js.index⟩) : Reaches host l (outer (r.map .ok)) 6 p := by
  let back : Program σ MethodResult := .ask (.drop js) fun _ => outer (r.map .ok)
  cases live : (p.handleOf js).isNull with
  | true =>
    have at_back : l.At back _ := Station.On.setThread (p := p.nullify js) here
    obtain ⟨n, hn, reached⟩ : Reaches host l (outer (r.map .ok)) 2 p :=
      .of_act (.closeAgain rfl live) here (reaches_of_drop at_back)
    exact ⟨n, Nat.le_trans hn (by decide), reached⟩
  | false =>
    obtain ⟨i, hi, hw, hh⟩ := exists_of_handleOf live
    have found : p.directory.get? (p.handleOf js) = some ⟨js.index⟩ :=
      hh ▸ (run.registered room).live hi hw
    obtain ⟨x, c, hx, -, -⟩ := run.exists_entry_of_found found
    have free : x.Open l.thread := run.open_of_others hx others
    have on : l.On (.vacate (p.handleOf js) back) _ :=
      Station.On.setThread (p := p.nullify js) here
    exact .of_act (.close rfl live) here (reaches_of_vacate reaches_of_drop on found hx free)

end Through

end Process

end Drawbridge
