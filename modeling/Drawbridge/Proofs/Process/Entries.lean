import Drawbridge.Proofs.Process.Action

/-!
# Entries in a step

`EntryStep` lists what the next step of a thread does to one entry, by the stage of the thread, and
`Act.entryStep` says that an action does one of these.  What becomes of a part of an entry is read
off this list, without the action.
-/

namespace Drawbridge

variable {C : Type} {E : Engine} {σ : Type}

/-- The entry that a stage works on. -/
def Stage.entry? : Stage C σ → Option EntryId
  | .host _ | .find .. | .vacate .. => none
  | .names e _ | .lockToClose e _ | .destroy e _ | .unlockClosed e _ => some e
  | .lock u | .check u | .enter u _ | .finish u _ | .unlock u _ => some u.entry
  | .work w _ | .leave w _ | .publish w _ => some w.underway.entry

namespace Process

variable {host : Host σ} {p p' : Process E σ} {t : ThreadId} {th th' : Thread E.Context σ}
  {e e' : EntryId} {x y : Entry E.Context} {f : Entry E.Context → Entry E.Context}

/-- What the next step of `th`, which is thread `t`, does to the entry `e`, which is `x`. -/
inductive EntryStep (t : ThreadId) (th : Thread E.Context σ) (e : EntryId) (x : Entry E.Context) :
    Entry E.Context → Prop
  | away (off : th.stage.entry? ≠ some e) : EntryStep t th e x x
  | names {back} (stage : th.stage = .names e back) : EntryStep t th e x x
  | lock {u} (stage : th.stage = .lock u) (here : u.entry = e) (free : x.Open t) :
    EntryStep t th e x (x.grab t)
  | checkReleased {u} (stage : th.stage = .check u) (here : u.entry = e) (gone : x.engine = none) :
    EntryStep t th e x x
  | check {u c} (stage : th.stage = .check u) (here : u.entry = e) (engine : x.engine = some c) :
    EntryStep t th e x (x.engage u.operation)
  | enter {u pending gate} (stage : th.stage = .enter u pending) (here : u.entry = e) :
    EntryStep t th e x { x with gate }
  | workRefused {w a} (stage : th.stage = .work w a) (here : w.underway.entry = e) :
    EntryStep t th e x x
  | work {w a c} (stage : th.stage = .work w a) (here : w.underway.entry = e) :
    EntryStep t th e x { x with engine := some c }
  | leave {w r gate} (stage : th.stage = .leave w r) (here : w.underway.entry = e) :
    EntryStep t th e x { x with gate }
  | publish {w r b y} (stage : th.stage = .publish w r) (here : w.underway.entry = e)
      (pending : w.pending = some b) (ok : r = .ok y) :
    EntryStep t th e x { x with board := x.board.commit b }
  | publishNothing {w r} (stage : th.stage = .publish w r) (here : w.underway.entry = e)
      (nothing : w.pending = none ∨ ∃ fault, r = .error fault) : EntryStep t th e x x
  | finish {u r} (stage : th.stage = .finish u r) (here : u.entry = e) (more : x.last = false) :
    EntryStep t th e x x.dismiss
  | finishLast {u r} (stage : th.stage = .finish u r) (here : u.entry = e) (last : x.last = true) :
    EntryStep t th e x x.dismiss.dropEngine
  | unlock {u r} (stage : th.stage = .unlock u r) (here : u.entry = e) : EntryStep t th e x x.letGo
  | lockToClose {back} (stage : th.stage = .lockToClose e back) (free : x.Open t) :
    EntryStep t th e x (x.grab t)
  | defer {back} (stage : th.stage = .destroy e back) (busy : 0 < x.depth) :
    EntryStep t th e x { x with closing := true }
  | destroy {back} (stage : th.stage = .destroy e back) (idle : x.depth = 0) :
    EntryStep t th e x x.dropEngine
  | unlockClosed {back} (stage : th.stage = .unlockClosed e back) : EntryStep t th e x x.letGo

theorem entryStep_of_modify (hx : p.entry? e = some x) (on : th.stage.entry? = some e')
    (here : e' = e → EntryStep t th e x (f x)) :
    ∃ y, entry? (p.modifyEntry e' f) e = some y ∧ EntryStep t th e x y := by
  by_cases he : e' = e
  · subst he
    exact ⟨f x, entry?_modify f hx, here rfl⟩
  · exact ⟨x, (entry?_modify_of_ne f he).trans hx, .away (on ▸ fun h => he (Option.some.inj h))⟩

theorem entryStep_of_same (hx : p.entry? e = some x) (on : th.stage.entry? = some e')
    (here : e' = e → EntryStep t th e x x) : ∃ y, p.entry? e = some y ∧ EntryStep t th e x y := by
  by_cases he : e' = e
  · exact ⟨x, hx, here he⟩
  · exact ⟨x, hx, .away (on ▸ fun h => he (Option.some.inj h))⟩

/-- An action does one of these to an entry that is there. -/
theorem Act.entryStep (act : Act host p t th p' th') (hx : p.entry? e = some x) :
    ∃ y, p'.entry? e = some y ∧ EntryStep t th e x y := by
  have same {e' : EntryId} {z : Entry E.Context} (hz : p.entry? e' = some z) (he : e' = e) :
      z = x := Option.some.inj (hz.symm.trans (he ▸ hx))
  have on {s : Stage E.Context σ} (stage : th.stage = s) : th.stage.entry? = s.entry? :=
    congrArg _ stage
  have off {s : Stage E.Context σ} (stage : th.stage = s) (none : s.entry? = none) :
      EntryStep t th e x x := .away (by rw [stage, none]; nofun)
  cases act with
  | @create settings next c stage =>
    exact ⟨x, entry?_enroll_of_some c settings hx, off stage rfl⟩
  | drop stage => exact ⟨x, by split_ifs <;> exact hx, off stage rfl⟩
  | names stage => exact entryStep_of_same hx (on stage) fun he => .names (he ▸ stage)
  | lock stage entry free =>
    exact entryStep_of_modify hx (on stage) fun he => .lock stage he (same entry he ▸ free)
  | checkReleased stage entry gone =>
    exact entryStep_of_same hx (on stage) fun he => .checkReleased stage he (same entry he ▸ gone)
  | check stage entry engine =>
    exact entryStep_of_modify hx (on stage) fun he => .check stage he (same entry he ▸ engine)
  | enter stage entry entrance =>
    refine entryStep_of_modify hx (on stage) fun he => ?_
    obtain rfl := same entry he
    rcases entrance?_eq_some entrance with ⟨-, -, rfl⟩ | ⟨-, -, -, rfl⟩ <;> exact .enter stage he
  | workRefused stage => exact entryStep_of_same hx (on stage) fun he => .workRefused stage he
  | workDone stage | workCall stage =>
    exact entryStep_of_modify hx (on stage) fun he => .work stage he
  | leave stage =>
    split_ifs
    · exact entryStep_of_same hx (on stage) fun he => .leave stage he
    · exact entryStep_of_modify hx (on stage) fun he => .leave stage he
  | publish stage entry pending ok =>
    exact entryStep_of_modify hx (on stage) fun he => .publish stage he pending ok
  | publishNothing stage nothing =>
    refine entryStep_of_same hx (on stage) fun he => ?_
    refine .publishNothing stage he (nothing.resolve_left ?_)
    rw [he, hx]
    exact Option.some_ne_none x
  | finish stage entry more =>
    exact entryStep_of_modify hx (on stage) fun he => .finish stage he (same entry he ▸ more)
  | finishLast stage entry last =>
    rw [modifyEntry_modifyEntry]
    exact entryStep_of_modify hx (on stage) fun he => .finishLast stage he (same entry he ▸ last)
  | unlock stage => exact entryStep_of_modify hx (on stage) fun he => .unlock stage he
  | lockToClose stage entry free =>
    exact entryStep_of_modify hx (on stage) fun he =>
      .lockToClose (he ▸ stage) (same entry he ▸ free)
  | defer stage entry busy =>
    exact entryStep_of_modify hx (on stage) fun he => .defer (he ▸ stage) (same entry he ▸ busy)
  | destroy stage entry idle =>
    exact entryStep_of_modify hx (on stage) fun he => .destroy (he ▸ stage) (same entry he ▸ idle)
  | unlockClosed stage =>
    exact entryStep_of_modify hx (on stage) fun he => .unlockClosed (he ▸ stage)
  | read stage | write stage | resume stage | createFailed stage | useClosed stage
  | useDefault stage | use stage | closeAgain stage | close stage | handle stage | settings stage
  | references stage | events stage | findClosed stage | findGlobals stage | findEvaluate stage
  | findCollect stage | findUnnamed stage | findRefused stage | findBind stage | vacateNone stage
  | vacate stage => exact ⟨x, hx, off stage rfl⟩

end Process

end Drawbridge
