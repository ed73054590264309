import Drawbridge.Proofs.Process.Boards
import Drawbridge.Proofs.Process.Lookup
import Drawbridge.Session.Step

/-!
# Closed interpreters

The handle of an interpreter changes once, from the one it was made with to null, in the step that
asks for its first close (`Run.handleOf_changes_iff`).  From then on requests are answered by what
the handle says (`step?_of_null`).  An operation that had found the entry before gets as far as the
lock: while it has it no other thread changes the entry (`Run.entry_of_locked`), and where the
engine was released it gives the lock back at once (`Run.locked_late`).
-/

namespace Drawbridge.Process

variable {E : Engine} {σ : Type} {host : Host σ} {p q p' : Process E σ} {t : ThreadId}
  {th th' : Thread E.Context σ} {e : EntryId} {x : Entry E.Context} {js : InterpreterId}
  {memory : σ} {programs : List (Program σ MethodResult)} {past : List (Moment E σ)}

/-! ## Locked entries -/

/-- A thread that does not have the lock of an entry takes it or leaves the entry as it is. -/
theorem EntryStep.of_outside {y : Entry E.Context} (step : EntryStep t th e x y)
    (outside : th.holds e = 0) :
    y = x ∨ x.Open t ∧ y = x.grab t ∧
      ((∃ u, th.stage = .lock u ∧ u.entry = e) ∨ ∃ back, th.stage = .lockToClose e back) := by
  cases step with
  | away | names | checkReleased | workRefused | publishNothing => exact Or.inl rfl
  | @lock u stage here free => exact Or.inr ⟨free, rfl, Or.inl ⟨u, stage, here⟩⟩
  | @lockToClose back stage free => exact Or.inr ⟨free, rfl, Or.inr ⟨back, stage⟩⟩
  | check stage here | enter stage here | work stage here | leave stage here | publish stage here
  | finish stage here | finishLast stage here | unlock stage here => simp [stage, here] at outside
  | defer stage | destroy stage | unlockClosed stage => simp [stage] at outside

theorem Act.entry_of_outside (act : Act host p t th p' th') (hx : p.entry? e = some x)
    (outside : th.holds e = 0) :
    p'.entry? e = some x ∨
      x.Open t ∧ p'.entry? e = some (x.grab t) ∧
        ((∃ u, th.stage = .lock u ∧ u.entry = e) ∨ ∃ back, th.stage = .lockToClose e back) := by
  obtain ⟨y, hy, step⟩ := act.entryStep hx
  rcases step.of_outside outside with rfl | ⟨free, rfl, stage⟩
  · exact Or.inl hy
  · exact Or.inr ⟨free, hy, stage⟩

/-- Only the thread that has the lock of an entry changes it. -/
theorem Act.entry_of_locked (act : Act host p t th p' th') (hx : p.entry? e = some x)
    (outside : th.holds e = 0) (locked : ¬ x.Open t) : p'.entry? e = some x :=
  (act.entry_of_outside hx outside).resolve_right fun h => locked h.1

theorem Run.entry_of_locked {before : List (Moment E σ)}
    (toP : Run host (start E memory programs) before p) (run : Run host p past q)
    (waits : ∀ m ∈ past, m.thread ≠ t) (hx : p.entry? e = some x) {n : Nat}
    (lock : x.lock = some (t, n)) : q.entry? e = some x := by
  induction run with
  | refl => exact hx
  | @step past q r s run next ih =>
    have hx := ih fun m hm => waits m (List.mem_cons_of_mem _ hm)
    have hs : t ≠ s := (waits _ (List.mem_cons_self ..)).symm
    obtain ⟨th, p', th', at_s, act, rfl⟩ := step?_eq_some_iff.1 next
    refine act.entry_of_locked hx ?_ fun free => hs (free t n lock)
    rw [((toP.trans run).kept e).locks hx at_s, Entry.holds, lock]
    exact if_neg hs

/-- An interpreter that is found has an engine, and is not closed. -/
theorem Run.exists_entry_of_found (run : Run host (start E memory programs) past p) {h : Handle}
    (found : p.directory.get? h = some e) :
    ∃ x c, p.entry? e = some x ∧ x.engine = some c ∧ x.closing = false := by
  have kept := run.kept e
  have listed := SlotMap.times_pos found
  cases hx : p.entry? e with
  | none =>
    have := (kept.unused hx).1
    omega
  | some x =>
    have key := kept.entry hx
    have once := key.once
    obtain ⟨c, engine⟩ := Option.isSome_iff_exists.1 (key.engine.2 (by omega))
    exact ⟨x, c, rfl, engine, Bool.toNat_eq_zero.1 (by omega)⟩

/-- Taken and given back, a lock is as it was. -/
theorem letGo_grab (free : x.Open t) (locked : ∀ owner n, x.lock = some (owner, n) → 0 < n) :
    (x.grab t).letGo = x := by
  have key : (x.grab t).letGo.lock = x.lock := by
    cases hl : x.lock with
    | none => simp [Entry.letGo, Entry.grab, Entry.holds, hl]
    | some l =>
      obtain ⟨owner, n⟩ := l
      have hn := locked owner n hl
      obtain rfl := free owner n hl
      simp [Entry.letGo, Entry.grab, Entry.holds, hl, Nat.ne_of_gt hn]
  exact congrArg (fun lock => { x with lock }) key

/-- A lock is taken if it is open. -/
theorem step?_lock (at_t : p.threads[t.index]? = some th) {u : Underway σ}
    (stage : th.stage = .lock u) (hx : p.entry? u.entry = some x)
    (next : p.step? host t = some q) :
    x.Open t ∧
      q = (p.modifyEntry u.entry (Entry.grab t)).setThread t { th with stage := .check u } := by
  obtain ⟨th₀, p', th', at_t', act, rfl⟩ := step?_eq_some_iff.1 next
  obtain rfl := Option.some.inj (at_t.symm.trans at_t')
  cases act with
  | lock stage' entry free =>
    obtain rfl := Stage.lock.inj (stage.symm.trans stage')
    obtain rfl := Option.some.inj (hx.symm.trans entry)
    exact ⟨free, rfl⟩
  | _ => simp_all

/-- A thread that gets the lock of an entry whose engine was released is told that the interpreter
is closed, and leaves the entry as it was. -/
theorem Run.locked_late (toP : Run host (start E memory programs) past p)
    (at_t : p.threads[t.index]? = some th) {u : Underway σ} (stage : th.stage = .lock u)
    (hx : p.entry? u.entry = some x) (gone : x.engine = none) {p₁ p₂ : Process E σ}
    (locking : p.step? host t = some p₁) {first : List (Moment E σ)} (wait : Run host p₁ first p₂)
    (waits : ∀ m ∈ first, m.thread ≠ t) :
    p₁ = (p.modifyEntry u.entry (Entry.grab t)).setThread t { th with stage := .check u } ∧
    p₂.step? host t = some (p₂.setThread t { th with stage := .unlock u (.error .closed) }) ∧
    ∀ p₃ second,
      Run host (p₂.setThread t { th with stage := .unlock u (.error .closed) }) second p₃ →
      (∀ m ∈ second, m.thread ≠ t) →
      p₃.step? host t = some ((p₃.modifyEntry u.entry Entry.letGo).setThread t
        { th with stage := .host (u.back (.error .closed)) }) ∧
      entry? (p₃.modifyEntry u.entry Entry.letGo) u.entry = some x := by
  have kept := (toP.kept u.entry).entry hx
  have toP₁ := toP.step locking
  obtain ⟨free, rfl⟩ := step?_lock at_t stage hx locking
  have hx₁ : entry? (p.modifyEntry u.entry (Entry.grab t)) u.entry = some (x.grab t) :=
    entry?_modify _ hx
  have hx₂ := toP₁.entry_of_locked wait waits hx₁ rfl
  have at_t₂ := wait.thread_eq waits
  rw [getElem?_setThread_self (p := p.modifyEntry u.entry (Entry.grab t)) at_t] at at_t₂
  have checking : p₂.step? host t = _ := (Act.checkReleased rfl hx₂ gone).step?_eq at_t₂
  refine ⟨rfl, checking, fun p₃ second wait₂ waits₂ => ?_⟩
  have hx₃ := ((toP₁.trans wait).step checking).entry_of_locked wait₂ waits₂ (t := t) hx₂ rfl
  have at_t₃ := wait₂.thread_eq waits₂
  rw [getElem?_setThread_self at_t₂] at at_t₃
  have unlocking : p₃.step? host t = _ := (Act.unlock rfl).step?_eq at_t₃
  refine ⟨unlocking, ?_⟩
  rw [entry?_modify _ hx₃, letGo_grab free kept.locked]

/-! ## Handles -/

/-- An interpreter that is not there yet was not there before. -/
theorem Run.interpreter?_eq_none (run : Run host p past q) (unmade : q.interpreter? js = none) :
    p.interpreter? js = none := by
  cases hi : p.interpreter? js with
  | none => rfl
  | some i =>
    obtain ⟨i', hi'⟩ := run.exists_interpreter hi
    rw [unmade] at hi'
    cases hi'

theorem not_closed_of_none (run : Run host p past q) (unmade : q.interpreter? js = none) :
    ¬ Closed past js := by
  rintro ⟨m, hm, -, made⟩
  obtain ⟨-, after, -, rest, -⟩ := run.split hm
  rw [rest.interpreter?_eq_none unmade] at made
  cases made

/-- The word of an interpreter is the one it was made with, or zero. -/
theorem Run.word (run : Run host p past q) {i : Interpreter} (hi : p.interpreter? js = some i) :
    ∃ i', q.interpreter? js = some i' ∧ (i'.word = i.word ∨ i'.word = 0) := by
  refine run.keeps (I := fun q => ∃ i', q.interpreter? js = some i' ∧
    (i'.word = i.word ∨ i'.word = 0)) ⟨i, hi, Or.inl rfl⟩ ?_
  rintro p t th p' th' ⟨j, hj, same⟩ - act
  obtain ⟨j', hj', kept | ⟨zero, -⟩⟩ := act.registryStep.interpreter? hj
  · exact ⟨j', hj', kept ▸ same⟩
  · exact ⟨j', hj', Or.inr zero⟩

section Life

variable {a a' : Process E σ} {born life : List (Moment E σ)} {s : ThreadId} {own : EntryId}
  (birth : Run host (start E memory programs) born a) (making : a.step? host s = some a')
  (made : Made a a' js own) (living : Run host a' life p)

include birth making made living

/-- The handle of an interpreter made in the step from `a` is null just if it was closed since. -/
theorem Run.isNull_iff_closed : (p.handleOf js).isNull = true ↔ Closed life js := by
  obtain ⟨i, hi⟩ := Option.isSome_iff_exists.1 made.interpreter.2
  obtain ⟨j, hj⟩ := living.exists_interpreter hi
  have unmade : ¬ Closed (⟨a, s⟩ :: born) js := by
    rintro ⟨m, hm, closes⟩
    rcases List.mem_cons.1 hm with rfl | hm
    · have := closes.2
      rw [made.interpreter.1] at this
      cases this
    · exact not_closed_of_none birth made.interpreter.1 ⟨m, hm, closes⟩
  have whole : Closed (life ++ ⟨a, s⟩ :: born) js ↔ Closed life js := by
    constructor
    · rintro ⟨m, hm, closes⟩
      rcases List.mem_append.1 hm with hm | hm
      · exact ⟨m, hm, closes⟩
      · exact absurd ⟨m, hm, closes⟩ unmade
    · rintro ⟨m, hm, closes⟩
      exact ⟨m, List.mem_append_left _ hm, closes⟩
  rw [isNull_handleOf_iff hj, ← whole, ((birth.step making).trans living).closed_iff, hj]
  simp

/-- Until it is closed an interpreter has the handle that it was made with. -/
theorem Run.handleOf_life :
    a'.handleOf js ≠ .null ∧ (Closed life js → p.handleOf js = .null) ∧
      (¬ Closed life js → p.handleOf js = a'.handleOf js) := by
  have null := birth.isNull_iff_closed making made living
  obtain ⟨i, hi⟩ := Option.isSome_iff_exists.1 made.interpreter.2
  obtain ⟨j, hj, word⟩ := living.word hi
  refine ⟨fun h => ?_, fun closed => (Handle.isNull_iff _).1 (null.2 closed), fun unclosed => ?_⟩
  · have closed := (birth.isNull_iff_closed making made .refl).1 ((Handle.isNull_iff _).2 h)
    obtain ⟨m, hm, -⟩ := closed
    cases hm
  · have hj0 : j.word ≠ 0 := fun h => unclosed (null.1 ((isNull_handleOf_iff hj).2 h))
    rw [handleOf_eq hi, handleOf_eq hj, Interpreter.handle, word.resolve_right hj0]
    rfl

/-- The handle changes in the step that asks for the first close, and in no other. -/
theorem Run.handleOf_changes_iff (next : p.step? host t = some q) :
    q.handleOf js ≠ p.handleOf js ↔ Moment.Closes ⟨p, t⟩ js ∧ ¬ Closed life js := by
  obtain ⟨made_null, null, kept⟩ := birth.handleOf_life making made living
  obtain ⟨-, null', kept'⟩ := birth.handleOf_life making made (living.step next)
  have cons : Closed (⟨p, t⟩ :: life) js ↔ Moment.Closes ⟨p, t⟩ js ∨ Closed life js := by
    simp [Closed]
  by_cases closed : Closed life js
  · rw [null closed, null' (cons.2 (Or.inr closed))]
    simp [closed]
  · rw [kept closed]
    by_cases closes : Moment.Closes ⟨p, t⟩ js
    · rw [null' (cons.2 (Or.inl closes))]
      exact iff_of_true made_null.symm ⟨closes, closed⟩
    · rw [kept' fun h => (cons.1 h).elim closes closed]
      simp [closes]

end Life

/-! ## Requests -/

theorem nullify_eq (null : (p.handleOf js).isNull = true) : p.nullify js = p := by
  have same : p.interpreters.modify js.index (fun i => { i with word := 0 }) = p.interpreters := by
    refine Array.ext_getElem? fun k => ?_
    rw [Array.getElem?_modify]
    split_ifs with hk
    · subst hk
      cases hi : p.interpreters[js.index]? with
      | none => rfl
      | some i =>
        have zero : i.word = 0 := (isNull_handleOf_iff (p := p) hi).1 null
        obtain ⟨word, settings⟩ := i
        obtain rfl : word = 0 := zero
        rfl
    · rfl
  unfold nullify
  rw [same]

/-- A request to a closed interpreter changes nothing and is answered at once. -/
theorem step?_of_null (null : p.handleOf js = .null) (at_t : p.threads[t.index]? = some th) :
    (∀ what next, th.stage = .host (.ask (.use js what) next) →
      p.step? host t
        = some (p.setThread t { th with stage := .host (next (.error .closed)) })) ∧
    (∀ next, th.stage = .host (.ask (.close js) next) →
      p.step? host t = some (p.setThread t { th with stage := .host (next ()) })) ∧
    ∀ next, th.stage = .host (.ask (.handle js) next) →
      p.step? host t = some (p.setThread t { th with stage := .host (next .null) }) := by
  have isNull := (Handle.isNull_iff _).2 null
  refine ⟨fun what next stage => (Act.useClosed stage isNull).step?_eq at_t,
    fun next stage => ?_, fun next stage => ?_⟩
  · have closing : p.step? host t = _ := (Act.closeAgain stage isNull).step?_eq at_t
    rwa [nullify_eq isNull] at closing
  · have reading : p.step? host t = _ := (Act.handle stage).step?_eq at_t
    rwa [null] at reading

/-- An interpreter keeps the handle that it was made with until its first close, and has none from
then on. Once it is closed each request is answered that it is, and nothing else changes; an
operation that found the entry before and gets the lock once the engine is released is told so too,
and leaves the entry as it was. -/
theorem closed_for_good {a a' : Process E σ} {born life : List (Moment E σ)} {s : ThreadId}
    {own : EntryId} (birth : Run host (start E memory programs) born a)
    (making : a.step? host s = some a') (made : Made a a' js own) (living : Run host a' life p) :
    (a'.handleOf js ≠ .null ∧ (Closed life js → p.handleOf js = .null) ∧
      (¬ Closed life js → p.handleOf js = a'.handleOf js)) ∧
    (∀ t q, p.step? host t = some q →
      (q.handleOf js ≠ p.handleOf js ↔ Moment.Closes ⟨p, t⟩ js ∧ ¬ Closed life js)) ∧
    (∀ label file,
      (Closed life js → (Session.Standing.mk (p.handleOf js) label file).state = "Closed") ∧
      (¬ Closed life js → (Session.Standing.mk (p.handleOf js) label file).state = "Live")) ∧
    (Closed life js → ∀ t th, p.threads[t.index]? = some th →
      (∀ what next, th.stage = .host (.ask (.use js what) next) →
        p.step? host t
          = some (p.setThread t { th with stage := .host (next (.error .closed)) })) ∧
      (∀ next, th.stage = .host (.ask (.close js) next) →
        p.step? host t = some (p.setThread t { th with stage := .host (next ()) })) ∧
      ∀ next, th.stage = .host (.ask (.handle js) next) →
        p.step? host t = some (p.setThread t { th with stage := .host (next .null) })) ∧
    ∀ t th u x, p.threads[t.index]? = some th → th.stage = .lock u → u.entry = own →
      p.entry? own = some x → x.engine = none →
      ∀ p₁ p₂ first, p.step? host t = some p₁ → Run host p₁ first p₂ →
        (∀ m ∈ first, m.thread ≠ t) →
        p₁ = (p.modifyEntry own (Entry.grab t)).setThread t { th with stage := .check u } ∧
        p₂.step? host t = some (p₂.setThread t { th with stage := .unlock u (.error .closed) }) ∧
        ∀ p₃ second,
          Run host (p₂.setThread t { th with stage := .unlock u (.error .closed) }) second p₃ →
          (∀ m ∈ second, m.thread ≠ t) →
          p₃.step? host t = some ((p₃.modifyEntry own Entry.letGo).setThread t
            { th with stage := .host (u.back (.error .closed)) }) ∧
          entry? (p₃.modifyEntry own Entry.letGo) own = some x := by
  have handle := birth.handleOf_life making made living
  have null := birth.isNull_iff_closed making made living
  refine ⟨handle, fun t q next => birth.handleOf_changes_iff making made living next,
    fun label file => ⟨fun closed => if_pos (null.2 closed), fun live => if_neg (mt null.1 live)⟩,
    fun closed t th at_t => step?_of_null (handle.2.1 closed) at_t, ?_⟩
  rintro t th u x at_t stage rfl hx gone p₁ p₂ first locking wait waits
  exact ((birth.step making).trans living).locked_late at_t stage hx gone locking wait waits

/-- Closed between the lookup and the lock, the first interpreter lets no operation in. -/
theorem closed_for_good_race :
    ∃ a p q : Process .relay Unit, race.step? closer ⟨0⟩ = some a ∧ a.handleOf ⟨0⟩ ≠ .null ∧
      p.handleOf ⟨0⟩ = .null ∧ p.follow closer [⟨0⟩, ⟨0⟩, ⟨0⟩] = some q ∧
      q.threads[0]? = some ⟨.host (.done (.ok .void)), [], []⟩ ∧
      q.entry? ⟨0⟩ = p.entry? ⟨0⟩ := by
  obtain ⟨a, p, p₁, p₂, q, x, making, made, living, at_t, hx, gone, locking, checking, unlocking,
      null, answer⟩ :
      ∃ (a p p₁ p₂ q : Process .relay Unit) (x : Entry Engine.relay.Context),
        race.step? closer ⟨0⟩ = some a ∧ Made race a ⟨0⟩ ⟨0⟩ ∧
        a.follow closer (List.replicate 2 ⟨0⟩ ++ List.replicate 5 ⟨1⟩) = some p ∧
        p.threads[0]? = some ⟨.lock ⟨⟨0⟩, .collect, fun _ => .done (.ok .void)⟩, [], []⟩ ∧
        p.entry? ⟨0⟩ = some x ∧ x.engine = none ∧ p.step? closer ⟨0⟩ = some p₁ ∧
        p₁.step? closer ⟨0⟩ = some p₂ ∧ p₂.step? closer ⟨0⟩ = some q ∧
        p.handleOf ⟨0⟩ = .null ∧ q.threads[0]? = some ⟨.host (.done (.ok .void)), [], []⟩ :=
    ⟨_, _, _, _, _, _, rfl, ⟨⟨rfl, rfl⟩, rfl, rfl⟩, rfl, rfl, rfl, rfl, rfl, rfl, rfl, rfl, rfl⟩
  have followed : p.follow closer [⟨0⟩, ⟨0⟩, ⟨0⟩] = some q := by
    simp only [follow, locking, checking, unlocking, Option.bind_some]
  obtain ⟨⟨live, -⟩, -, -, -, late⟩ := closed_for_good .refl making made (.of_follow living)
  obtain ⟨-, checking', late⟩ := late ⟨0⟩ _ _ x at_t rfl rfl hx gone p₁ p₁ [] locking .refl nofun
  obtain rfl := Option.some.inj (checking.symm.trans checking')
  obtain ⟨unlocking', same⟩ := late _ [] .refl nofun
  obtain rfl := Option.some.inj (unlocking.symm.trans unlocking')
  exact ⟨a, p, _, making, live, null, followed, answer, same.trans hx.symm⟩

end Drawbridge.Process
