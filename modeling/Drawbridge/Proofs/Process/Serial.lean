import Drawbridge.Proofs.Process.Turns

/-!
# Operations one after another

The threads take turns on an interpreter.  `Progress` says which turns are over since some state in
which nobody had the lock, and how far the one is that is under way; a step begins a turn, goes on
with it, ends it, or is of a thread that does not have the lock and does nothing
(`Run.progress`).  By `operations_serialized` the interpreter is in the state, and the operations
have returned the results, that come of these turns one after another.
-/

namespace Drawbridge

/-- The thread has asked for an interpreter and does not have the lock yet. -/
def Stage.isPending {C σ : Type} : Stage C σ → Bool
  | .find .. | .vacate .. | .lock _ | .lockToClose .. => true
  | _ => false

namespace Process

variable {E : Engine} {σ : Type} {host : Host σ} {p q p' : Process E σ} {t : ThreadId}
  {th th' : Thread E.Context σ} {e : EntryId} {x y : Entry E.Context}

/-! ## Turns of a run -/

/-- What `f` makes of the thread that is about to make a step. -/
def Moment.of? {α : Type} (f : ThreadId → Thread E.Context σ → Option α) (m : Moment E σ) :
    Option α :=
  m.process.threads[m.thread.index]?.bind (f m.thread)

/-- What the threads did on an entry, in order. -/
def marks (e : EntryId) (past : List (Moment E σ)) : List Mark :=
  (past.filterMap (Moment.of? fun _ => Thread.mark? e)).reverse

/-- What operations on an entry returned, in order. -/
def returns (e : EntryId) (past : List (Moment E σ)) : List Returned :=
  (past.filterMap (Moment.of? fun _ => Thread.returns? e)).reverse

/-- Who took the lock of an entry, and for what, in order. -/
def began (e : EntryId) (past : List (Moment E σ)) : List (Holder σ) :=
  (past.filterMap (Moment.of? fun t => Thread.begins? t e)).reverse

/-- The turns on an entry that are over, in order. -/
def ended (e : EntryId) (past : List (Moment E σ)) : List (Turn σ) :=
  (past.filterMap (Moment.of? fun t => Thread.ends? t e)).reverse

theorem reverse_filterMap_cons {α β : Type} (f : α → Option β) (a : α) (l : List α) :
    ((a :: l).filterMap f).reverse = (l.filterMap f).reverse ++ (f a).toList := by
  cases h : f a <;> simp [h]

section Cons

variable {past : List (Moment E σ)} (at_t : p.threads[t.index]? = some th)

include at_t

theorem Moment.of?_eq {α : Type} (f : ThreadId → Thread E.Context σ → Option α) :
    Moment.of? f ⟨p, t⟩ = f t th := by
  simp [Moment.of?, at_t]

theorem marks_cons : marks e (⟨p, t⟩ :: past) = marks e past ++ (th.mark? e).toList := by
  unfold marks
  rw [reverse_filterMap_cons, Moment.of?_eq at_t]

theorem returns_cons : returns e (⟨p, t⟩ :: past) = returns e past ++ (th.returns? e).toList := by
  unfold returns
  rw [reverse_filterMap_cons, Moment.of?_eq at_t]

theorem began_cons : began e (⟨p, t⟩ :: past) = began e past ++ (th.begins? t e).toList := by
  unfold began
  rw [reverse_filterMap_cons, Moment.of?_eq at_t]

theorem ended_cons : ended e (⟨p, t⟩ :: past) = ended e past ++ (th.ends? t e).toList := by
  unfold ended
  rw [reverse_filterMap_cons, Moment.of?_eq at_t]

end Cons

/-- No thread has the lock of an entry. -/
def Free (p : Process E σ) (e : EntryId) : Prop :=
  ∀ {t : ThreadId} {th}, p.threads[t.index]? = some th → th.holds e = 0

/-- How far a turn is that began at `d`, of a thread that has the lock. -/
structure Held (e : EntryId) (d : Desk E.Context) (past : List (Moment E σ)) (t : ThreadId)
    (th : Thread E.Context σ) (x : Entry E.Context) (done : List Mark)
    (returned : List Returned) : Prop where
  holder : began e past = (ended e past).map Turn.holder ++ [th.holder t e]
  new : done = [] ↔ th.New e
  first : done ≠ [] → done.head? = some (th.holder t e).mark
  ahead : (Bench.clean d).replay E done = th.ahead e x.desk returned

/-- The turns on an entry since `d₀`, and what was done in the one that is under way. -/
structure Progress (e : EntryId) (d₀ : Desk E.Context) (past : List (Moment E σ))
    (p : Process E σ) (x : Entry E.Context) (turns : List (Turn σ × List Mark × List Returned))
    (d : Desk E.Context) (done : List Mark) (returned : List Returned) : Prop where
  entry : p.entry? e = some x
  serial : Serial E d₀ turns d
  ended : ended e past = turns.map (·.1)
  marks : marks e past = turns.flatMap (·.2.1) ++ done
  returns : returns e past = turns.flatMap (·.2.2) ++ returned
  whole : Whole E d done
  free : p.Free e → done = [] ∧ returned = [] ∧ x.desk = d ∧
    began e past = (Process.ended e past).map Turn.holder
  held : ∀ {t : ThreadId} {th}, p.threads[t.index]? = some th → 0 < th.holds e →
    Held e d past t th x done returned

/-- The marks of a turn with the next one, if there is one in this step. -/
theorem Held.marks {d : Desk E.Context} {past : List (Moment E σ)} {done : List Mark}
    {returned : List Returned} (held : Held e d past t th x done returned)
    (whole : Whole E d done) :
    Whole E d (done ++ (th.mark? e).toList) ∧ done ++ (th.mark? e).toList ≠ [] ∧
      (done ++ (th.mark? e).toList).head? = some (th.holder t e).mark ∧
      (Bench.clean d).replay E (done ++ (th.mark? e).toList)
        = (th.mark? e).elim (th.ahead e x.desk returned)
            ((th.ahead e x.desk returned).step E) := by
  cases mark : th.mark? e with
  | none =>
    have nonempty : done ≠ [] := fun h => by
      rw [(mark?_of_new t (held.new.1 h)).1] at mark
      cases mark
    rw [Option.toList_none, List.append_nil]
    exact ⟨whole, nonempty, held.first nonempty, held.ahead⟩
  | some m =>
    have waits (nonempty : done ≠ []) : ((Bench.clean d).replay E done).frames ≠ [] := by
      rw [held.ahead]
      exact frames_of_mark? mark (mt held.new.2 nonempty) _ _
    refine ⟨whole.concat m waits, by simp, ?_, ?_⟩
    · rcases eq_or_ne done [] with rfl | nonempty
      · exact mark.symm.trans (mark?_of_new t (held.new.1 rfl)).1
      · rw [Option.toList_some, List.head?_append_of_ne_nil _ nonempty]
        exact held.first nonempty
    · rw [Option.toList_some, Bench.replay_concat, held.ahead]
      rfl

/-- All operations inside an engine are those of the thread that has the lock. -/
theorem Kept.depth_eq (kept : p.Kept e) (hx : p.entry? e = some x)
    (at_t : p.threads[t.index]? = some th) (holds : 0 < th.holds e) : x.depth = th.inside e := by
  let stopped : Thread E.Context σ := ⟨.host (.panic .other), [], []⟩
  have others : (p.setThread t stopped).total (Thread.inside e) = 0 := by
    refine total_eq_zero fun {s ths} at_s => ?_
    by_cases hs : s = t
    · subst hs
      rw [getElem?_setThread_self at_t] at at_s
      rw [← Option.some.inj at_s]
      rfl
    · rw [getElem?_setThread_ne hs] at at_s
      have := kept.alone hx at_t holds at_s hs
      have := Thread.inside_le_holds e ths
      omega
  have total : (p.setThread t stopped).total (Thread.inside e) + th.inside e
      = p.total (Thread.inside e) + stopped.inside e := total_setThread _ at_t
  have := (kept.entry hx).depth
  have : stopped.inside e = 0 := rfl
  omega

section Progress

variable {d₀ d : Desk E.Context} {past : List (Moment E σ)} {done : List Mark}
  {returned : List Returned} {turns : List (Turn σ × List Mark × List Returned)}

theorem at_of_ne {s : ThreadId} {ths : Thread E.Context σ} (threads : p'.threads = p.threads)
    (hs : s ≠ t) (at_s : (p'.setThread t th').threads[s.index]? = some ths) :
    p.threads[s.index]? = some ths := by
  rwa [getElem?_setThread_ne hs, threads] at at_s

variable (progress : Progress e d₀ past p x turns d done returned)
  (at_t : p.threads[t.index]? = some th) (act : Act host p t th p' th')

include progress at_t act

/-- A thread that does not have the lock of the entry does nothing to it. -/
theorem Progress.pass (outside : th.holds e = 0) (begins : th.begins? t e = none) :
    Progress e d₀ (⟨p, t⟩ :: past) (p'.setThread t th') x turns d done returned := by
  have mark : th.mark? e = none := by
    by_contra h
    obtain ⟨m, hm⟩ := Option.ne_none_iff_exists'.1 h
    exact Nat.ne_of_gt (holds_of_mark? hm) outside
  have returns : th.returns? e = none := by
    by_contra h
    obtain ⟨m, hm⟩ := Option.ne_none_iff_exists'.1 h
    exact Nat.ne_of_gt (holds_of_returns? hm) outside
  obtain ⟨outside', ends⟩ := (act.tenure e).outside outside begins
  have began_eq : began e (⟨p, t⟩ :: past) = began e past := by
    rw [began_cons at_t, begins]
    exact List.append_nil _
  have ended_eq : Process.ended e (⟨p, t⟩ :: past) = Process.ended e past := by
    rw [ended_cons at_t, ends]
    exact List.append_nil _
  have entry : p'.entry? e = some x := by
    refine (act.entry_of_outside progress.entry outside).resolve_right ?_
    have idle : th.waiting e = 0 := by
      unfold Thread.holds at outside
      omega
    rintro ⟨-, -, ⟨u, stage, here⟩ | ⟨back, stage⟩⟩
    · simp_all [Thread.begins?]
    · simp_all [Thread.begins?]
  refine ⟨entry, progress.serial, ended_eq.trans progress.ended, ?_, ?_, progress.whole,
    fun free => ?_, fun {s ths} at_s holds => ?_⟩
  · rw [marks_cons at_t, mark, progress.marks]
    exact List.append_nil _
  · rw [returns_cons at_t, returns, progress.returns]
    exact List.append_nil _
  · rw [began_eq, ended_eq]
    refine progress.free fun {s ths} at_s => ?_
    by_cases hs : s = t
    · subst hs
      rw [← Option.some.inj (at_t.symm.trans at_s), outside]
    · exact free (by rwa [getElem?_setThread_ne hs, act.threads])
  · have hs : s ≠ t := by
      rintro rfl
      rw [getElem?_setThread_self (act.threads ▸ at_t)] at at_s
      rw [← Option.some.inj at_s, outside'] at holds
      omega
    have held := progress.held (at_of_ne act.threads hs at_s) holds
    exact ⟨by rw [began_eq, ended_eq, held.holder], held.new, held.first, held.ahead⟩

/-- A thread that takes the lock begins a turn. -/
theorem Progress.begins (kept : p.Kept e) (sound : p.directory.Sound) (outside : th.holds e = 0)
    {k : Holder σ} (begins : th.begins? t e = some k) :
    Progress e d₀ (⟨p, t⟩ :: past) (p'.setThread t th') (x.grab t) turns d done returned := by
  obtain ⟨holds', new, holder, ends⟩ := (act.tenure e).begins begins
  have mark : th.mark? e = none := by
    by_contra h
    obtain ⟨m, hm⟩ := Option.ne_none_iff_exists'.1 h
    exact Nat.ne_of_gt (holds_of_mark? hm) outside
  have returns : th.returns? e = none := by
    by_contra h
    obtain ⟨m, hm⟩ := Option.ne_none_iff_exists'.1 h
    exact Nat.ne_of_gt (holds_of_returns? hm) outside
  have ended_eq : Process.ended e (⟨p, t⟩ :: past) = Process.ended e past := by
    rw [ended_cons at_t, ends]
    exact List.append_nil _
  obtain ⟨z, hz, free, entry⟩ := (act.change sound e).grabbed outside holds'
  obtain rfl := Option.some.inj (progress.entry.symm.trans hz)
  -- the lock is open to a thread that does not have it, so no other thread has it
  have others : p.Free e := fun {s ths} at_s => by
    by_cases hs : s = t
    · subst hs
      rw [← Option.some.inj (at_t.symm.trans at_s), outside]
    · rw [kept.locks progress.entry at_s, Entry.holds_eq_zero free hs]
  obtain ⟨rfl, rfl, desk, began_eq⟩ := progress.free others
  refine ⟨entry, progress.serial, ended_eq.trans progress.ended, ?_, ?_, progress.whole,
    fun free => ?_, fun {s ths} at_s holds => ?_⟩
  · rw [marks_cons at_t, mark, progress.marks]
    exact List.append_nil _
  · rw [returns_cons at_t, returns, progress.returns]
    exact List.append_nil _
  · have := free (getElem?_setThread_self (act.threads ▸ at_t))
    omega
  · by_cases hs : s = t
    · subst hs
      rw [getElem?_setThread_self (act.threads ▸ at_t)] at at_s
      obtain rfl := Option.some.inj at_s
      refine ⟨?_, iff_of_true rfl new, nofun, ?_⟩
      · rw [began_cons at_t, begins, ended_eq, began_eq, holder]
        rfl
      · rw [(mark?_of_new s new).2.2, Bench.replay_nil, ← desk]
        rfl
    · have := others (at_of_ne act.threads hs at_s)
      omega

/-- A thread goes on with its turn. -/
theorem Progress.goes (kept : p.Kept e) (sound : p.directory.Sound) (inside : 0 < th.holds e)
    (ends : th.ends? t e = none) :
    ∃ y, Progress e d₀ (⟨p, t⟩ :: past) (p'.setThread t th') y turns d
      (done ++ (th.mark? e).toList) (returned ++ (th.returns? e).toList) := by
  have held := progress.held at_t inside
  obtain ⟨holds', old, holder, begins⟩ := (act.tenure e).inside inside ends
  obtain ⟨y, hy, -⟩ := (act.change sound e).board progress.entry
  have ahead := act.advances progress.entry hy (kept.depth_eq progress.entry at_t inside)
    (kept.entry progress.entry).closing returned
  have ended_eq : Process.ended e (⟨p, t⟩ :: past) = Process.ended e past := by
    rw [ended_cons at_t, ends]
    exact List.append_nil _
  obtain ⟨whole, nonempty, first, replayed⟩ := held.marks progress.whole
  refine ⟨y, hy, progress.serial, ended_eq.trans progress.ended, ?_, ?_, whole, fun free => ?_,
    fun {s ths} at_s holds => ?_⟩
  · rw [marks_cons at_t, progress.marks, List.append_assoc]
  · rw [returns_cons at_t, progress.returns, List.append_assoc]
  · have := free (getElem?_setThread_self (act.threads ▸ at_t))
    omega
  · by_cases hs : s = t
    · subst hs
      rw [getElem?_setThread_self (act.threads ▸ at_t)] at at_s
      obtain rfl := Option.some.inj at_s
      refine ⟨?_, iff_of_false nonempty old, fun _ => by rw [holder, first], ?_⟩
      · rw [began_cons at_t, begins, ended_eq, held.holder, holder]
        exact List.append_nil _
      · rw [replayed, ahead]
    · have := kept.alone progress.entry at_t inside (at_of_ne act.threads hs at_s) hs
      omega

/-- A thread is at the end of its turn. -/
theorem Progress.ends (kept : p.Kept e) (sound : p.directory.Sound) (inside : 0 < th.holds e)
    {turn : Turn σ} (ends : th.ends? t e = some turn) :
    ∃ y, Progress e d₀ (⟨p, t⟩ :: past) (p'.setThread t th') y
      (turns ++ [(turn, done, returned ++ (th.returns? e).toList)]) y.desk [] [] := by
  have held := progress.held at_t inside
  obtain ⟨outside, holder, old, begins⟩ := (act.tenure e).ends ends
  obtain ⟨y, hy, -⟩ := (act.change sound e).board progress.entry
  obtain ⟨ahead, mark, gives⟩ := ahead_of_ends? ends x.desk returned
  have nonempty : done ≠ [] := mt held.new.1 old
  have desk : y.desk = x.desk := by
    have given := (act.change sound e).given inside outside
    rw [show (p.view th e).entry = some x from progress.entry] at given
    rw [← Option.some.inj (given.symm.trans hy)]
    rfl
  have serves : Serves E d turn done (returned ++ (th.returns? e).toList) y.desk := by
    refine ⟨holder ▸ held.first nonempty, progress.whole, ?_, ?_⟩
    · rw [held.ahead, ahead, desk]
    · cases turn with
      | use t u r =>
        rw [gives]
        exact List.getLast?_concat
      | close t =>
        obtain ⟨rest, rfl⟩ := List.head?_eq_some_iff.1 (held.first nonempty)
        rw [holder] at progress held
        obtain rfl := progress.whole.eq_singleton (m := .close) rfl
        have closed : (⟨_, _, []⟩ : Bench E.Context) = _ := held.ahead.trans ahead
        exact (Bench.mk.inj closed).2.2.symm
  refine ⟨y, hy, progress.serial.snoc serves, ?_, ?_, ?_, whole_nil _, fun free => ?_,
    fun {s ths} at_s holds => ?_⟩
  · rw [ended_cons at_t, ends, progress.ended, List.map_append]
    rfl
  · rw [marks_cons at_t, mark, progress.marks, List.flatMap_append]
    simp
  · rw [returns_cons at_t, progress.returns, List.flatMap_append]
    simp
  · refine ⟨rfl, rfl, rfl, ?_⟩
    rw [began_cons at_t, begins, ended_cons at_t, ends, held.holder, holder, List.map_append]
    exact List.append_nil _
  · by_cases hs : s = t
    · subst hs
      rw [getElem?_setThread_self (act.threads ▸ at_t)] at at_s
      rw [← Option.some.inj at_s] at holds
      omega
    · have := kept.alone progress.entry at_t inside (at_of_ne act.threads hs at_s) hs
      omega

end Progress

/-! ## What turns are asked for by -/

/-- The thread as it last ran host code. -/
def asked (t : ThreadId) (past : List (Moment E σ)) : Option (Thread E.Context σ) :=
  past.findSome? fun m =>
    if m.thread = t then m.process.threads[t.index]?.filter (·.stage.isHost) else none

/-- The request of host code that takes the lock. -/
inductive Calls (t : ThreadId) : Stage E.Context σ → Holder σ → Prop
  | evaluate {js source file name next e} (named : ∀ f, file = some f → name = f) :
    Calls t (.host (.ask (.use js (.evaluate source file)) next))
      (.use t ⟨e, .evaluate source name, next⟩)
  | bind {js name contract object roster next e} :
    Calls t (.host (.ask (.use js (.bind name contract object)) next))
      (.use t ⟨e, .bind name roster object, next⟩)
  | collect {js next e} :
    Calls t (.host (.ask (.use js .collect) next)) (.use t ⟨e, .collect, next⟩)
  | close {js next} : Calls t (.host (.ask (.close js) next)) (.close t)

/-- A request on the way from host code to the lock. -/
inductive Pending (t : ThreadId) : Stage E.Context σ → Stage E.Context σ → Prop
  | useDefault {js source next h file} :
    Pending t (.host (.ask (.use js (.evaluate source none)) next))
      (.find h (.evaluate source file) next)
  | use {js what next h} :
    Pending t (.host (.ask (.use js what) next)) (.find h what next)
  | vacate {js next h} : Pending t (.host (.ask (.close js) next)) (.vacate h (next ()))
  | lock {asks u} (calls : Calls t asks (.use t u)) : Pending t asks (.lock u)
  | lockToClose {asks e back} (calls : Calls t asks (.close t)) :
    Pending t asks (.lockToClose e back)

section Asked

variable {past : List (Moment E σ)}

theorem asked_cons_of_ne {s : ThreadId} (h : s ≠ t) : asked t (⟨p, s⟩ :: past) = asked t past := by
  unfold asked
  rw [List.findSome?_cons, if_neg h]

theorem asked_cons (at_t : p.threads[t.index]? = some th) :
    asked t (⟨p, t⟩ :: past) = if th.stage.isHost then some th else asked t past := by
  unfold asked
  rw [List.findSome?_cons, if_pos rfl, at_t]
  cases h : th.stage.isHost <;> simp [Option.filter, h]

/-- A request is made by host code, and goes on from there. -/
theorem Act.pending (act : Act host p t th p' th') (at_t : p.threads[t.index]? = some th)
    (asks : th.stage.isPending = true →
      ∃ th₀, asked t past = some th₀ ∧ Pending t th₀.stage th.stage)
    (pending : th'.stage.isPending = true) :
    ∃ th₀, asked t (⟨p, t⟩ :: past) = some th₀ ∧ Pending t th₀.stage th'.stage := by
  rw [asked_cons at_t]
  cases act with
  | useDefault stage =>
    rw [stage]
    exact ⟨th, rfl, stage ▸ .useDefault⟩
  | use stage =>
    rw [stage]
    exact ⟨th, rfl, stage ▸ .use⟩
  | close stage =>
    rw [stage]
    exact ⟨th, rfl, stage ▸ .vacate⟩
  | findEvaluate stage =>
    obtain ⟨th₀, last, request⟩ := asks (by rw [stage]; rfl)
    rw [stage] at request ⊢
    refine ⟨th₀, last, .lock ?_⟩
    generalize th₀.stage = s at request
    cases request with
    | useDefault => exact .evaluate nofun
    | use => exact .evaluate fun f h => by rw [h]; rfl
  | findCollect stage =>
    obtain ⟨th₀, last, request⟩ := asks (by rw [stage]; rfl)
    rw [stage] at request ⊢
    refine ⟨th₀, last, .lock ?_⟩
    generalize th₀.stage = s at request
    cases request
    exact .collect
  | findBind stage =>
    obtain ⟨th₀, last, request⟩ := asks (by rw [stage]; rfl)
    rw [stage] at request ⊢
    refine ⟨th₀, last, .lock ?_⟩
    generalize th₀.stage = s at request
    cases request
    exact .bind
  | vacate stage =>
    obtain ⟨th₀, last, request⟩ := asks (by rw [stage]; rfl)
    rw [stage] at request ⊢
    refine ⟨th₀, last, .lockToClose ?_⟩
    generalize th₀.stage = s at request
    cases request
    exact .close
  | _ => cases pending

end Asked

theorem Pending.calls {asks : Stage E.Context σ} {k : Holder σ} (pending : Pending t asks th.stage)
    (begins : th.begins? t e = some k) : Calls t asks k := by
  unfold Thread.begins? at begins
  cases stage : th.stage with
  | lock u =>
    obtain ⟨-, rfl⟩ := by simpa only [stage, Option.ite_none_right_eq_some, Option.some.injEq]
      using begins
    rw [stage] at pending
    cases pending with
    | lock calls => exact calls
  | lockToClose e' back =>
    obtain ⟨-, rfl⟩ := by simpa only [stage, Option.ite_none_right_eq_some, Option.some.injEq]
      using begins
    rw [stage] at pending
    cases pending with
    | lockToClose calls => exact calls
  | _ => simp [stage] at begins

theorem isPending_of_begins? {k : Holder σ} (begins : th.begins? t e = some k) :
    th.stage.isPending = true := by
  unfold Thread.begins? at begins
  cases stage : th.stage <;> simp_all [Stage.isPending]

section Run

variable {memory : σ} {programs : List (Program σ MethodResult)} {before past : List (Moment E σ)}

/-- Whatever the threads do since a state in which nobody has the lock, they take turns. -/
theorem Run.progress (toP : Run host (start E memory programs) before p)
    (hx : p.entry? e = some x) (free : p.Free e) (run : Run host p past q) :
    ∃ y turns d done returned, Progress e x.desk past q y turns d done returned := by
  induction run with
  | refl =>
    refine ⟨x, [], x.desk, [], [], hx, .nil, rfl, rfl, rfl, whole_nil _,
      fun _ => ⟨rfl, rfl, rfl, rfl⟩, fun at_t holds => ?_⟩
    have := free at_t
    omega
  | @step past q r t run next ih =>
    obtain ⟨y, turns, d, done, returned, progress⟩ := ih
    have toQ := toP.trans run
    have kept := toQ.kept e
    have sound := toQ.sound SlotMap.sound_empty
    obtain ⟨th, p', th', at_t, act, rfl⟩ := step?_eq_some_iff.1 next
    rcases Nat.eq_zero_or_pos (th.holds e) with outside | inside
    · cases begins : th.begins? t e with
      | none => exact ⟨_, _, _, _, _, progress.pass at_t act outside begins⟩
      | some k => exact ⟨_, _, _, _, _, progress.begins at_t act kept sound outside begins⟩
    · cases ends : th.ends? t e with
      | none =>
        obtain ⟨z, goes⟩ := progress.goes at_t act kept sound inside ends
        exact ⟨z, _, _, _, _, goes⟩
      | some turn =>
        obtain ⟨z, ended⟩ := progress.ends at_t act kept sound inside ends
        exact ⟨z, _, _, _, _, ended⟩

theorem Run.asked {past : List (Moment E σ)} (run : Run host (start E memory programs) past p)
    (at_t : p.threads[t.index]? = some th) (pending : th.stage.isPending = true) :
    ∃ th₀, Process.asked t past = some th₀ ∧ Pending t th₀.stage th.stage := by
  induction run generalizing t th with
  | refl =>
    obtain ⟨body, rfl⟩ := thread_start at_t
    cases pending
  | @step past q r s run next ih =>
    obtain ⟨ths, p', th', at_s, act, rfl⟩ := step?_eq_some_iff.1 next
    by_cases hs : t = s
    · subst hs
      rw [getElem?_setThread_self (act.threads ▸ at_s)] at at_t
      obtain rfl := Option.some.inj at_t
      exact act.pending at_s (ih at_s) pending
    · rw [asked_cons_of_ne (Ne.symm hs)]
      exact ih (at_of_ne act.threads hs at_t) pending

/-- The lock is taken for what its thread has asked for last. -/
theorem Run.calls {later earlier : List (Moment E σ)} {m : Moment E σ} {k : Holder σ}
    (run : Run host (start E memory programs) (later ++ m :: earlier) p)
    (begins : Moment.of? (fun t => Thread.begins? t e) m = some k) :
    ∃ th₀, Process.asked m.thread earlier = some th₀ ∧ Calls m.thread th₀.stage k := by
  obtain ⟨r, upTo, -⟩ := run.of_append
  cases upTo with
  | step toM next =>
    obtain ⟨th, at_t, begins⟩ := Option.bind_eq_some_iff.1 begins
    obtain ⟨th₀, last, request⟩ := toM.asked at_t (isPending_of_begins? begins)
    exact ⟨th₀, last, request.calls begins⟩

/-- Where nobody has the lock nothing is under way. -/
theorem Run.closing_eq_false (run : Run host (start E memory programs) past p)
    (hx : p.entry? e = some x) (free : p.Free e) : x.closing = false := by
  have key := (run.kept e).entry hx
  have idle : p.total (Thread.inside e) = 0 := total_eq_zero fun {t th} at_t => by
    have := free at_t
    have := Thread.inside_le_holds e th
    omega
  by_contra h
  have := key.closing (by simpa using h)
  have := key.depth
  omega

theorem Run.free_of_lock (run : Run host (start E memory programs) past p)
    (hx : p.entry? e = some x) (unlocked : x.lock = none) : p.Free e := fun at_t => by
  rw [(run.kept e).locks hx at_t, Entry.holds, unlocked]

/-- Turns of `n` threads, `k` of each. -/
theorem length_of_countP_thread {n k : Nat} {turns : List (Turn σ)}
    (each : ∀ i < n, turns.countP (·.thread.index = i) = k)
    (all : ∀ turn ∈ turns, turn.thread.index < n) : turns.length = n * k := by
  have upTo : turns.countP (·.thread.index < n) = n * k := by
    clear all
    induction n with
    | zero => simp
    | succ n ih =>
      have step : turns.countP (·.thread.index < n + 1)
          = turns.countP (·.thread.index < n) + turns.countP (·.thread.index = n) := by
        clear each ih
        induction turns with
        | nil => rfl
        | cons turn turns ih =>
          simp only [List.countP_cons, ih, decide_eq_true_eq]
          split_ifs <;> omega
      rw [step, ih fun i hi => each i (Nat.lt_succ_of_lt hi), each n (Nat.lt_succ_self n),
        Nat.succ_mul]
  rw [← upTo, eq_comm, List.countP_eq_length]
  simpa using all

/-- The operations on an interpreter are serialized.  Two threads never have operations inside its
engine at once.  Since a state in which nobody has the lock the threads take turns, whole operations
and closes one after another in the order in which they took the lock (`Progress`): the engine and
the board are as these turns leave them, run alone, and what operations returned is what they return
so.  Wherever the order is cut, either the engine was let go before, and all operations after the
cut are told that the interpreter is closed, or none before it is.  The lock is taken for what the
thread asked for last, and while an interpreter can be found its engine is there.  Of updates that
any number of threads make none is lost. -/
theorem operations_serialized (toP : Run host (start E memory programs) before p)
    (hx : p.entry? e = some x) (free : x.lock = none) (run : Run host p past q) :
    (∀ {s t ths tht}, q.threads[ThreadId.index s]? = some ths →
      q.threads[ThreadId.index t]? = some tht → 0 < ths.inside e → 0 < tht.inside e → s = t) ∧
    (∃ y turns d done returned, Progress e x.desk past q y turns d done returned ∧
      (∀ {earlier later}, turns = earlier ++ later →
        ∃ d', Serial E x.desk earlier d' ∧ Serial E d' later d ∧
          (d'.engine = none → ∀ t u r, .use t u r ∈ later.map (·.1) → r = .error .closed) ∧
          (d'.engine ≠ none → ∀ t u r, .use t u r ∈ earlier.map (·.1) → r ≠ .error .closed)) ∧
      ∀ {source c f n k} {text : E.Context → String}, x.engine = some c →
        (∀ file c, E.evaluate source file c = .done (.ok (text c)) (f c)) →
        (∀ turn ∈ ended e past, ∃ t file back r,
          turn = .use t ⟨e, .evaluate source file, back⟩ r ∧ t.index < n) →
        (∀ i < n, (ended e past).countP (·.thread.index = i) = k) → q.Free e →
        y.engine = some (f^[n * k] c)) ∧
    (∀ {later m earlier k}, past = later ++ m :: earlier →
      Moment.of? (fun t => Thread.begins? t e) m = some k →
      ∃ th, asked m.thread (earlier ++ before) = some th ∧ Calls m.thread th.stage k) ∧
    ∀ {h y}, q.directory.get? h = some e → q.entry? e = some y → y.engine.isSome := by
  have toQ := toP.trans run
  have unlocked : p.Free e := toP.free_of_lock hx free
  have unclosed : x.closing = false := toP.closing_eq_false hx unlocked
  obtain ⟨y, turns, d, done, returned, progress⟩ := toP.progress hx unlocked run
  refine ⟨fun {s t ths tht} at_s at_t hs ht => ?_, ⟨y, turns, d, done, returned, progress, ?_, ?_⟩,
    ?_, fun found hy => ?_⟩
  · by_contra ne
    have holds := Nat.lt_of_lt_of_le ht (Thread.inside_le_holds e tht)
    have := (toQ.kept e).alone progress.entry at_t holds at_s ne
    have := Thread.inside_le_holds e ths
    omega
  · rintro earlier later rfl
    exact progress.serial.cut
  · intro source c f n k text engine update all each idle
    obtain ⟨-, -, desk, -⟩ := progress.free idle
    have updated := progress.serial.updates (e := e) engine unclosed update fun turn h => by
      obtain ⟨t, file, back, r, rfl, -⟩ := all turn (progress.ended ▸ h)
      exact ⟨t, file, back, r, rfl⟩
    have many : turns.length = n * k := by
      have : turns.length = (turns.map (·.1)).length := (List.length_map _).symm
      rw [this, ← progress.ended]
      refine length_of_countP_thread each fun turn h => ?_
      obtain ⟨t, file, back, r, rfl, bound⟩ := all turn h
      exact bound
    rw [many] at updated
    exact congrArg Desk.engine (desk.trans updated)
  · rintro later m earlier k rfl begins
    rw [List.append_assoc, List.cons_append] at toQ
    exact toQ.calls begins
  · obtain ⟨z, c, hz, engine, -⟩ := toQ.exists_entry_of_found found
    rw [Option.some.inj (hy.symm.trans hz), engine]
    rfl

end Run

/-- In `race` the second thread closes the interpreter while the first is on its way to the lock. -/
def overtaking : List ThreadId :=
  List.replicate 2 ⟨0⟩ ++ List.replicate 5 ⟨1⟩ ++ List.replicate 3 ⟨0⟩

/-- The one that is overtaken is told that the interpreter is closed. -/
theorem operations_serialized_race :
    ∃ (a q : Process .relay Unit) (turns : List (Turn Unit × List Mark × List Returned))
      (d : Desk Engine.relay.Context),
      race.step? closer ⟨0⟩ = some a ∧ a.follow closer overtaking = some q ∧
      turns.map (·.1) = [.close ⟨1⟩,
        .use ⟨0⟩ ⟨⟨0⟩, .collect, fun _ => .done (.ok .void)⟩ (.error .closed)] ∧
      Serial .relay ⟨some [], .empty, false⟩ turns d ∧ d.engine = none := by
  obtain ⟨a, q, y, making, first, living, conducted, last, given, gone⟩ :
      ∃ (a q : Process .relay Unit) (y : Entry Engine.relay.Context),
        race.step? closer ⟨0⟩ = some a ∧ a.entry? ⟨0⟩ = some (.fresh []) ∧
        a.follow closer overtaking = some q ∧
        ended ⟨0⟩ (a.moments closer overtaking) = [.close ⟨1⟩,
          .use ⟨0⟩ ⟨⟨0⟩, .collect, fun _ => .done (.ok .void)⟩ (.error .closed)] ∧
        q.entry? ⟨0⟩ = some y ∧ y.lock = none ∧ y.engine = none :=
    ⟨_, _, _, rfl, rfl, rfl, rfl, rfl, rfl, rfl⟩
  have making' : Run closer race _ a := .step .refl making
  obtain ⟨-, ⟨z, turns, d, done, returned, progress, -⟩, -⟩ :=
    operations_serialized making' first rfl (.of_follow living)
  obtain rfl := Option.some.inj (last.symm.trans progress.entry)
  have idle : q.Free ⟨0⟩ := (making'.trans (.of_follow living)).free_of_lock last given
  obtain ⟨-, -, desk, -⟩ := progress.free idle
  exact ⟨a, q, turns, d, making, living, progress.ended.symm.trans conducted, progress.serial,
    desk ▸ gone⟩

end Process

end Drawbridge
