import Drawbridge.Proofs.Process.Globals

/-!
# Boards in a run

`Stage.move?` is what the next step of a thread does to the board of an entry; the board of an entry
is what the moves in a run make of it (`Run.boardOf_after`).  Only the thread that has the lock of
an entry makes moves on its board (`Run.move_locked`).
-/

namespace Drawbridge

open Switchboard (Move)

variable {C : Type} {E : Engine} {σ : Type}

/-- What the next step of a thread at this stage does to the board of `e`, which is `x`. -/
def Stage.move? (e : EntryId) (x : Entry C) : Stage C σ → Option Move
  | .check ⟨e', .bind name roster object, _⟩ =>
    if e' = e ∧ x.engine.isSome then some (.prepare name roster object) else none
  | .publish w r =>
    match w.pending, r with
    | some b, .ok _ => if w.underway.entry = e then some (.commit b) else none
    | _, _ => none
  | .finish u _ => if u.entry = e ∧ x.last then some .clear else none
  | .destroy e' _ => if e' = e ∧ x.depth = 0 then some .clear else none
  | _ => none

theorem Stage.move?_publish_eq_none {e : EntryId} {x : Entry C} {w : Work C σ}
    {r : Except BridgeFault w.underway.operation.Result}
    (nothing : w.underway.entry ≠ e ∨ w.pending = none ∨ ∃ fault, r = .error fault) :
    Stage.move? e x (.publish w r) = none := by
  cases hb : w.pending <;> cases r <;> simp_all [Stage.move?]

/-- A thread makes no move on a board that its stage does not work on. -/
theorem Stage.move?_eq_none {e : EntryId} {x : Entry C} {stage : Stage C σ}
    (off : stage.entry? ≠ some e) : stage.move? e x = none := by
  cases stage with
  | check u =>
    obtain ⟨e', op, back⟩ := u
    cases op <;> simp_all [Stage.entry?, Stage.move?]
  | publish w r => exact move?_publish_eq_none (.inl fun he => off (congrArg some he))
  | _ => simp_all [Stage.entry?, Stage.move?]

/-- An operation begins under the lock. -/
theorem View.Change.holds_pos {t : ThreadId} {v v' : View C} (change : View.Change t v v')
    (outside : v.inside = 0) (inside : 0 < v'.inside) : 0 < v.holds := by
  cases change with
  | engage op entry engine holds => exact holds
  | run _ eq | publish _ eq | dismiss _ _ _ eq | dismissLast _ _ _ eq | keep eq | create _ eq
  | gate eq | grab _ _ eq | letGo _ eq | vacate _ eq | defer _ _ _ eq | destroy _ _ _ _ eq =>
    rw [eq] at inside
    exact absurd inside (by simp_all)

namespace Process

variable {host : Host σ} {p q p' : Process E σ} {t : ThreadId} {th th' : Thread E.Context σ}
  {e e' : EntryId} {x : Entry E.Context}

/-- What a step does to the board of an entry. -/
def Moment.move? (e : EntryId) (m : Moment E σ) : Option Move :=
  (m.process.entry? e).bind fun x =>
    (m.process.threads[m.thread.index]?).bind fun th => th.stage.move? e x

theorem Moment.move?_eq (hx : p.entry? e = some x) (at_t : p.threads[t.index]? = some th) :
    Moment.move? e ⟨p, t⟩ = th.stage.move? e x := by
  unfold Moment.move?
  rw [hx, Option.bind_some, at_t, Option.bind_some]

theorem Moment.move?_of_none (unused : p.entry? e = none) : Moment.move? e ⟨p, t⟩ = none := by
  unfold Moment.move?
  rw [unused, Option.bind_none]

@[simp] theorem boardOf_report (events : List Event) : (p.report events).boardOf e = p.boardOf e :=
  rfl

@[simp] theorem boardOf_setThread : (p.setThread t th).boardOf e = p.boardOf e := rfl

/-- A board goes on by the move of the stage. -/
theorem EntryStep.board {y : Entry E.Context} (step : EntryStep t th e x y) :
    y.board = x.board.after (th.stage.move? e x).toList := by
  cases step with
  | away off =>
    rw [Stage.move?_eq_none off]
    rfl
  | @check u c stage here engine =>
    obtain ⟨e', op, back⟩ := u
    cases op <;> simp_all [Stage.move?, Entry.engage, Switchboard.after, Switchboard.apply]
  | @checkReleased u stage here gone =>
    obtain ⟨e', op, back⟩ := u
    cases op <;> simp_all [Stage.move?]
  | publish stage here pending ok =>
    subst ok
    simp [stage, Stage.move?, here, pending, Switchboard.after, Switchboard.apply]
  | publishNothing stage here nothing =>
    rw [stage, Stage.move?_publish_eq_none (.inr nothing)]
    rfl
  | finish stage here more => simp [stage, Stage.move?, more, Entry.dismiss]
  | finishLast stage here last =>
    simp [stage, Stage.move?, here, last, Entry.dismiss, Entry.dropEngine, Switchboard.after,
      Switchboard.apply]
  | defer stage busy => simp [stage, Stage.move?, Nat.ne_of_gt busy]
  | destroy stage idle =>
    simp [stage, Stage.move?, idle, Entry.dropEngine, Switchboard.after, Switchboard.apply]
  | names stage | lock stage | enter stage | workRefused stage | work stage | leave stage
  | unlock stage | lockToClose stage | unlockClosed stage =>
    simp [stage, Stage.move?, Entry.grab, Entry.letGo]

/-- An action does to each board what its stage says. -/
theorem Act.board (act : Act host p t th p' th') (hx : p.entry? e = some x) :
    p'.boardOf e = x.board.after (th.stage.move? e x).toList := by
  obtain ⟨y, hy, step⟩ := act.entryStep hx
  rw [boardOf_eq hy, step.board]

/-! ## Boards in a run -/

/-- The moves on the board of an entry, in order. -/
def moves (e : EntryId) (past : List (Moment E σ)) : List Move :=
  (past.filterMap (Moment.move? e)).reverse

theorem moves_cons (e : EntryId) (m : Moment E σ) (past : List (Moment E σ)) :
    moves e (m :: past) = moves e past ++ (m.move? e).toList := by
  unfold moves
  cases h : m.move? e <;> simp [h]

theorem boardOf_of_none (hx : p.entry? e = none) : p.boardOf e = .empty := by
  unfold boardOf
  rw [hx]
  rfl

theorem Act.boardOf_after (act : Act host p t th p' th') (sound : p.directory.Sound)
    (at_t : p.threads[t.index]? = some th) (e : EntryId) :
    p'.boardOf e = (p.boardOf e).after (Moment.move? e ⟨p, t⟩).toList := by
  cases hx : p.entry? e with
  | some x => rw [act.board hx, Moment.move?_eq hx at_t, boardOf_eq hx]
  | none =>
    rw [Moment.move?_of_none hx, boardOf_of_none hx]
    cases hy : p'.entry? e with
    | none => exact boardOf_of_none hy
    | some y =>
      obtain ⟨c, rfl⟩ := (act.change sound e).fresh hx hy
      exact boardOf_eq hy

/-- The board of an entry is what the moves in a run make of it. -/
theorem Run.boardOf_after {past : List (Moment E σ)} (run : Run host p past q)
    (sound : p.directory.Sound) (e : EntryId) :
    q.boardOf e = (p.boardOf e).after (moves e past) := by
  induction run with
  | refl => rfl
  | @step past q r t run next ih =>
    obtain ⟨th, p', th', at_t, act, rfl⟩ := step?_eq_some_iff.1 next
    rw [boardOf_setThread, act.boardOf_after (run.sound sound) at_t, ih, moves_cons]
    simp [Switchboard.after]

/-! ## Who makes moves -/

theorem holds_pos_of_move? {m : Move} (h : th.stage.move? e x = some m) : 0 < th.holds e := by
  suffices 0 < th.stage.holds e from Nat.add_pos_left this _
  cases stage : th.stage with
  | check u =>
    obtain ⟨e', op, back⟩ := u
    rw [stage] at h
    cases op with
    | bind name roster object =>
      by_cases he : e' = e <;> simp_all [Stage.move?]
    | _ => cases h
  | publish w r =>
    rw [stage] at h
    by_cases he : w.underway.entry = e
    · simp [he]
    · cases hb : w.pending <;> cases r <;> simp_all [Stage.move?]
  | finish u r => by_cases he : u.entry = e <;> simp_all [Stage.move?]
  | destroy e' back => by_cases he : e' = e <;> simp_all [Stage.move?]
  | _ =>
    rw [stage] at h
    cases h

/-- Only an entry that is there is locked. -/
theorem Kept.exists_entry (kept : p.Kept e) (at_t : p.threads[t.index]? = some th)
    (holds : 0 < th.holds e) : ∃ x, p.entry? e = some x := by
  cases hx : p.entry? e with
  | some x => exact ⟨x, rfl⟩
  | none =>
    have := le_total (Thread.holds e) at_t
    have := (kept.unused hx).2.1
    omega

/-- No two threads have the lock of an entry. -/
theorem Kept.alone (kept : p.Kept e) (hx : p.entry? e = some x)
    (at_t : p.threads[t.index]? = some th) (holds : 0 < th.holds e) {s : ThreadId}
    {ths : Thread E.Context σ} (at_s : p.threads[s.index]? = some ths) (h : s ≠ t) :
    ths.holds e = 0 := by
  rw [kept.locks hx at_t] at holds
  obtain ⟨n, lock⟩ := Entry.lock_of_holds holds
  rw [kept.locks hx at_s, Entry.holds, lock]
  exact if_neg h.symm

/-- A thread that moves on the board of an entry has its lock, and no other thread has it. -/
theorem Run.move_locked {memory : σ} {programs : List (Program σ MethodResult)}
    {past : List (Moment E σ)} (run : Run host (start E memory programs) past p) {m : Move}
    (move : Moment.move? e ⟨p, t⟩ = some m) {s : ThreadId} {ths : Thread E.Context σ}
    (at_s : p.threads[s.index]? = some ths) (h : s ≠ t) : ths.holds e = 0 := by
  obtain ⟨x, hx, hmove⟩ := Option.bind_eq_some_iff.1 move
  obtain ⟨th, at_t, hmove⟩ := Option.bind_eq_some_iff.1 hmove
  exact (run.kept e).alone hx at_t (holds_pos_of_move? hmove) at_s h

/-- An entry is left to the operations inside by a close that finds some. -/
theorem EntryStep.closing {y : Entry E.Context} (step : EntryStep t th e x y)
    (first : x.closing = false) (last : y.closing = true) :
    ∃ back, th.stage = .destroy e back := by
  cases step with
  | @defer back stage => exact ⟨back, stage⟩
  | finish | finishLast => simp [Entry.dismiss, Entry.dropEngine, first] at last
  | _ => exact absurd (first.symm.trans last) Bool.false_ne_true

theorem Act.closing (act : Act host p t th p' th') (hx : p.entry? e = some x)
    {y : Entry E.Context} (hy : p'.entry? e = some y) (first : x.closing = false)
    (last : y.closing = true) : ∃ back, th.stage = .destroy e back := by
  obtain ⟨z, hz, step⟩ := act.entryStep hx
  obtain rfl := Option.some.inj (hz.symm.trans hy)
  exact step.closing first last

/-- Thread `s` is inside an entry that is closed after a step of `t`. Then it was before, or `s` has
closed it in this step. -/
theorem Kept.closing_cases (kept : p.Kept e) (sound : p.directory.Sound)
    (act : Act host p t th p' th') (at_t : p.threads[t.index]? = some th)
    (hx : p.entry? e = some x) {y : Entry E.Context} (hy : p'.entry? e = some y)
    (closing : y.closing = true) {s : ThreadId} {ths ths' : Thread E.Context σ}
    (at_s : p.threads[s.index]? = some ths)
    (at_s' : (p'.setThread t th').threads[s.index]? = some ths') (inside : 0 < ths'.inside e) :
    0 < ths.inside e ∧ x.closing = true ∨ s = t ∧ ∃ back, ths.stage = .destroy e back := by
  by_cases hst : s = t
  · subst hst
    obtain rfl := Option.some.inj (at_t.symm.trans at_s)
    rw [getElem?_setThread_self (act.threads ▸ at_t)] at at_s'
    obtain rfl := Option.some.inj at_s'
    cases hc : x.closing with
    | false => exact Or.inr ⟨rfl, act.closing hx hy hc closing⟩
    | true =>
      refine Or.inl ⟨?_, rfl⟩
      by_contra outside
      have outside : th.inside e = 0 := Nat.eq_zero_of_not_pos outside
      have holds : 0 < th.holds e := (act.change sound e).holds_pos outside inside
      -- nobody is inside, so the entry would not be left to anyone
      have idle : p.total (Thread.inside e) = 0 := total_eq_zero fun {r thr} at_r => by
        by_cases hr : r = s
        · subst hr
          rw [← Option.some.inj (at_t.symm.trans at_r), outside]
        · have := kept.alone hx at_t holds at_r hr
          have := Thread.inside_le_holds e thr
          omega
      have key := kept.entry hx
      have := key.closing hc
      have := key.depth
      omega
  · rw [getElem?_setThread_ne hst, act.threads, at_s] at at_s'
    obtain rfl := Option.some.inj at_s'
    cases hc : x.closing with
    | true => exact Or.inl ⟨inside, rfl⟩
    | false =>
      obtain ⟨back, stage⟩ := act.closing hx hy hc closing
      have holds : 0 < th.holds e := by simp [stage]
      have := kept.alone hx at_t holds at_s hst
      have := Thread.inside_le_holds e ths
      omega

end Process

end Drawbridge
