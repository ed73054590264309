import Drawbridge.Proofs.Process.Boards

/-!
# Drafts

A draft is a binding that a bind has made and not yet published or given up.  `Act.drafted` says
what becomes of the drafts of a thread: one comes with each binding made, and one goes when it is
published or given up.  So each number that is given stands for one draft at most or for one
published binding (`Run.uses_le_given`), and a binding that was given up is published nowhere and
never (`Run.not_published_of_failed`).
-/

namespace Drawbridge

open Switchboard (Move)

variable {C : Type} {E : Engine} {σ : Type}

/-- The binding that a work is to publish on the board of `e`. -/
def Work.draft? (e : EntryId) (w : Work C σ) : Option Binding :=
  if w.underway.entry = e then w.pending else none

/-- The binding that a thread at this stage is to publish on the board of `e`. -/
def Stage.draft? (e : EntryId) : Stage C σ → Option Binding
  | .enter u pending => if u.entry = e then pending else none
  | .work w _ | .leave w _ | .publish w _ => w.draft? e
  | _ => none

/-- The drafts of a thread for the board of `e`. -/
def Thread.drafts (e : EntryId) (th : Thread C σ) : List Binding :=
  (th.stage.draft? e).toList ++ th.calls.filterMap (·.work.draft? e)

/-- What an action that makes this move on a board does with the drafts for it. -/
inductive Drafted (board : Switchboard) : Option Move → List Binding → List Binding → Prop
  | keep {move drafts} (still : move = none ∨ move = some .clear) :
    Drafted board move drafts drafts
  | make {name roster object drafts} :
    Drafted board (some (.prepare name roster object)) drafts
      ((board.prepare name roster object).1 :: drafts)
  | publish {b drafts} : Drafted board (some (.commit b)) (b :: drafts) drafts
  | give {b drafts} : Drafted board none (b :: drafts) drafts

/-- How many of these bindings have a number. -/
def uses (n : Nat) (bindings : List Binding) : Nat := bindings.countP (·.id = n)

theorem uses_cons (n : Nat) (b : Binding) (bindings : List Binding) :
    uses n (b :: bindings) = uses n bindings + if b.id = n then 1 else 0 := by
  simp [uses, List.countP_cons]

namespace Switchboard

/-- How often a number was given: once, or not yet. -/
def given (n : Nat) (board : Switchboard) : Nat := if n ≤ board.prepared then 1 else 0

theorem uses_commit_le (n : Nat) (board : Switchboard) (b : Binding) :
    uses n (board.commit b).published ≤ uses n board.published + if b.id = n then 1 else 0 := by
  unfold commit
  rw [uses_cons]
  exact Nat.add_le_add_right (List.Sublist.countP_le List.filter_sublist) _

theorem given_prepare (n : Nat) (board : Switchboard) (name : String) (roster : Roster)
    (object : ObjectId) :
    given n (board.prepare name roster object).2
      = given n board + if board.prepared + 1 = n then 1 else 0 := by
  have : (board.prepare name roster object).2.prepared = board.prepared + 1 := rfl
  unfold given
  rw [this]
  split_ifs <;> omega

end Switchboard

/-- A number comes into use when it is given, and else only changes hands. -/
theorem Drafted.uses_le {board : Switchboard} {move : Option Move} {drafts drafts' : List Binding}
    (drafted : Drafted board move drafts drafts') (n : Nat) :
    uses n drafts' + uses n (board.after move.toList).published + board.given n
      ≤ uses n drafts + uses n board.published + (board.after move.toList).given n := by
  cases drafted with
  | keep still =>
    rcases still with rfl | rfl
    · exact Nat.le_refl _
    · have : uses n board.clear.published = 0 := rfl
      have : board.clear.given n = board.given n := rfl
      rw [Option.toList_some, Switchboard.after_singleton, Switchboard.apply]
      omega
  | @make name roster object =>
    have := board.given_prepare n name roster object
    have := uses_cons n (board.prepare name roster object).1 drafts
    have : uses n (board.prepare name roster object).2.published = uses n board.published := rfl
    have : (board.prepare name roster object).1.id = board.prepared + 1 := rfl
    rw [Option.toList_some, Switchboard.after_singleton, Switchboard.apply]
    simp only [this] at *
    omega
  | @publish b =>
    have := board.uses_commit_le n b
    have := uses_cons n b drafts'
    have : (board.commit b).given n = board.given n := rfl
    rw [Option.toList_some, Switchboard.after_singleton, Switchboard.apply]
    omega
  | @give b =>
    have := uses_cons n b drafts'
    rw [Option.toList_none, Switchboard.after_nil]
    omega

namespace Process

variable {host : Host σ} {p q p' : Process E σ} {t : ThreadId} {th th' : Thread E.Context σ}
  {e : EntryId} {x : Entry E.Context}

/-- A step that makes no binding and publishes none leaves the drafts as they are. -/
theorem drafted_of_still (at_t : p.threads[t.index]? = some th)
    (drafts : th'.drafts e = th.drafts e)
    (still : ∀ x, p.entry? e = some x →
      th.stage.move? e x = none ∨ th.stage.move? e x = some .clear) :
    Drafted (p.boardOf e) (Moment.move? e ⟨p, t⟩) (th.drafts e) (th'.drafts e) := by
  rw [drafts]
  refine .keep ?_
  cases hx : p.entry? e with
  | none =>
    rw [Moment.move?_of_none hx]
    exact Or.inl rfl
  | some x =>
    rw [Moment.move?_eq hx at_t]
    exact still x hx

theorem drafted_check (at_t : p.threads[t.index]? = some th) {u : Underway σ} {c : E.Context}
    (stage : th.stage = .check u) (entry : p.entry? u.entry = some x) (engine : x.engine = some c) :
    Drafted (p.boardOf e) (Moment.move? e ⟨p, t⟩) (th.drafts e)
      (Thread.drafts e { th with stage := .enter u (x.pending u.operation) }) := by
  obtain ⟨e', op, back⟩ := u
  cases op with
  | bind name roster object =>
    by_cases he : e' = e
    · subst he
      rw [Moment.move?_eq entry at_t, boardOf_eq entry]
      have live : x.engine.isSome := by rw [engine]; rfl
      simp only [Thread.drafts, Stage.draft?, stage, Stage.move?, live, and_self, if_true]
      exact .make
    · exact drafted_of_still at_t (by simp [Thread.drafts, Stage.draft?, stage, he])
        fun x _ => by simp [stage, Stage.move?, he]
  | _ =>
    exact drafted_of_still at_t (by simp [Thread.drafts, Stage.draft?, stage, Entry.pending])
      fun x _ => by simp [stage, Stage.move?]

theorem drafted_checkReleased (at_t : p.threads[t.index]? = some th) {u : Underway σ}
    {r : Except BridgeFault u.operation.Result} (stage : th.stage = .check u)
    (entry : p.entry? u.entry = some x) (gone : x.engine = none) :
    Drafted (p.boardOf e) (Moment.move? e ⟨p, t⟩) (th.drafts e)
      (Thread.drafts e { th with stage := .unlock u r }) := by
  refine drafted_of_still at_t (by simp [Thread.drafts, Stage.draft?, stage]) fun z hz => Or.inl ?_
  obtain ⟨e', op, back⟩ := u
  rw [stage]
  cases op with
  | bind name roster object =>
    refine if_neg ?_
    rintro ⟨rfl, live⟩
    obtain rfl := Option.some.inj (hz.symm.trans entry)
    rw [gone] at live
    cases live
  | _ => rfl

theorem drafted_publish (at_t : p.threads[t.index]? = some th) {w : Work E.Context σ} {b : Binding}
    {y : w.underway.operation.Result} {r : Except BridgeFault w.underway.operation.Result}
    (stage : th.stage = .publish w (.ok y)) (entry : p.entry? w.underway.entry = some x)
    (pending : w.pending = some b) :
    Drafted (p.boardOf e) (Moment.move? e ⟨p, t⟩) (th.drafts e)
      (Thread.drafts e { th with stage := .finish w.underway r }) := by
  by_cases he : w.underway.entry = e
  · subst he
    rw [Moment.move?_eq entry at_t]
    simp only [Thread.drafts, Stage.draft?, Work.draft?, stage, Stage.move?, pending, if_true]
    exact .publish
  · exact drafted_of_still at_t (by simp [Thread.drafts, Stage.draft?, Work.draft?, stage, he])
      fun x _ => Or.inl (stage ▸ Stage.move?_publish_eq_none (.inl he))

/-- A draft that is not published is given up. -/
theorem drafted_publishNothing (at_t : p.threads[t.index]? = some th) {w : Work E.Context σ}
    {r : Except BridgeFault w.underway.operation.Result} (stage : th.stage = .publish w r)
    (nothing : p.entry? w.underway.entry = none ∨ w.pending = none ∨ ∃ fault, r = .error fault) :
    Drafted (p.boardOf e) (Moment.move? e ⟨p, t⟩) (th.drafts e)
      (Thread.drafts e { th with stage := .finish w.underway r }) := by
  have still : Moment.move? e ⟨p, t⟩ = none := by
    cases hx : p.entry? e with
    | none => exact Moment.move?_of_none hx
    | some x =>
      rw [Moment.move?_eq hx at_t, stage]
      refine Stage.move?_publish_eq_none (nothing.imp_left fun unused he => ?_)
      rw [he, hx] at unused
      cases unused
  rw [still]
  cases hd : w.draft? e with
  | none =>
    simp only [Thread.drafts, Stage.draft?, stage, hd]
    exact .keep (.inl rfl)
  | some b =>
    simp only [Thread.drafts, Stage.draft?, stage, hd]
    exact .give

/-- An action does with the drafts of its thread what it does to the board. -/
theorem Act.drafted (act : Act host p t th p' th') (at_t : p.threads[t.index]? = some th)
    (e : EntryId) :
    Drafted (p.boardOf e) (Moment.move? e ⟨p, t⟩) (th.drafts e) (th'.drafts e) := by
  cases act with
  | check stage entry engine => exact drafted_check at_t stage entry engine
  | checkReleased stage entry gone => exact drafted_checkReleased at_t stage entry gone
  | publish stage entry pending ok =>
    subst ok
    exact drafted_publish at_t stage entry pending
  | publishNothing stage nothing => exact drafted_publishNothing at_t stage nothing
  | resume stage result calling engine =>
    refine drafted_of_still at_t ?_ fun x _ => by simp [stage, Stage.move?]
    simp only [Thread.drafts, Stage.draft?, stage, calling]
    cases hd : Work.draft? e _ <;> simp [hd]
  | @workCall w target args c resume i stage gate =>
    refine drafted_of_still at_t ?_ fun x _ => by simp [stage, Stage.move?]
    simp only [Thread.drafts, Stage.draft?, stage]
    cases hd : w.draft? e <;> simp [hd]
  | finish stage | finishLast stage | defer stage | destroy stage =>
    refine drafted_of_still at_t (by simp [Thread.drafts, Stage.draft?, stage]) fun x _ => ?_
    rw [stage]
    simp only [Stage.move?]
    split_ifs
    · exact Or.inr rfl
    · exact Or.inl rfl
  | leave stage | drop stage | lock stage | workDone stage | unlock stage | lockToClose stage
  | unlockClosed stage | create stage | enter stage
  | read stage | write stage | createFailed stage | useClosed stage | useDefault stage | use stage
  | closeAgain stage | close stage | handle stage | settings stage | references stage
  | events stage | findClosed stage | findGlobals stage | findEvaluate stage | findCollect stage
  | findUnnamed stage | findRefused stage | findBind stage | names stage
  | workRefused stage | vacateNone stage | vacate stage =>
    exact drafted_of_still at_t (by simp [Thread.drafts, Stage.draft?, stage, Work.draft?])
      fun x _ => by simp [stage, Stage.move?]

/-! ## Numbers in use -/

/-- How many drafts and published bindings of an entry have a number. -/
def uses (e : EntryId) (n : Nat) (p : Process E σ) : Nat :=
  p.total (fun th => Drawbridge.uses n (th.drafts e)) + Drawbridge.uses n (p.boardOf e).published

theorem Act.uses_le (act : Act host p t th p' th') (sound : p.directory.Sound)
    (at_t : p.threads[t.index]? = some th) (e : EntryId) (n : Nat) :
    (p'.setThread t th').uses e n + (p.boardOf e).given n
      ≤ p.uses e n + ((p'.setThread t th').boardOf e).given n := by
  have total := total_step th' (fun th => Drawbridge.uses n (th.drafts e)) act.threads at_t
  have key := (act.drafted at_t e).uses_le n
  unfold uses
  rw [boardOf_setThread, act.boardOf_after sound at_t]
  omega

theorem Run.uses_le {past : List (Moment E σ)} (run : Run host p past q)
    (sound : p.directory.Sound) (e : EntryId) (n : Nat) :
    q.uses e n + (p.boardOf e).given n ≤ p.uses e n + (q.boardOf e).given n := by
  induction run with
  | refl => exact Nat.le_refl _
  | @step past q r t run next ih =>
    obtain ⟨th, p', th', at_t, act, rfl⟩ := step?_eq_some_iff.1 next
    have := act.uses_le (run.sound sound) at_t e n
    omega

section Start

variable {memory : σ} {programs : List (Program σ MethodResult)} {past : List (Moment E σ)}

/-- A number stands for one draft at most or for one published binding, and for none before it is
given. -/
theorem Run.uses_le_given (run : Run host (start E memory programs) past p) (e : EntryId)
    (n : Nat) : p.uses e n ≤ (p.boardOf e).given n := by
  have key := run.uses_le SlotMap.sound_empty e n
  have first : (start E memory programs).uses e n = 0 := by
    unfold uses
    rw [total_start memory programs fun _ => rfl]
    rfl
  omega

/-- A draft is given up when the engine has failed to install it. It is then published nowhere, and
it stays so. -/
theorem Run.not_published_of_failed {past' : List (Moment E σ)} {r : Process E σ}
    {w : Work E.Context σ} {fault : BridgeFault} {b : Binding}
    (run : Run host (start E memory programs) past p) (at_t : p.threads[t.index]? = some th)
    (stage : th.stage = .publish w (.error fault)) (draft : w.draft? e = some b)
    (next : p.step? host t = some q) (later : Run host q past' r) :
    ∀ c ∈ (r.boardOf e).published, c.id ≠ b.id := by
  have act : Act host p t th p { th with stage := .finish w.underway (.error fault) } :=
    .publishNothing stage (.inr (.inr ⟨fault, rfl⟩))
  obtain rfl := act.eq_of_step? at_t next
  have drafts : th.drafts e
      = b :: Thread.drafts e { th with stage := .finish w.underway (.error fault) } := by
    simp [Thread.drafts, Stage.draft?, stage, draft]
  have used := uses_cons b.id b
    (Thread.drafts e { th with stage := .finish w.underway (.error fault) })
  rw [← drafts, if_pos rfl] at used
  have given_le (board : Switchboard) : board.given b.id ≤ 1 := by
    unfold Switchboard.given
    split_ifs <;> omega
  -- the number stands for this draft alone before the step, and for nothing after it
  have before := run.uses_le_given e b.id
  have step := total_step { th with stage := .finish w.underway (.error fault) }
    (fun th => Drawbridge.uses b.id (th.drafts e)) rfl at_t
  have after := later.uses_le ((run.step next).sound SlotMap.sound_empty) e b.id
  rw [boardOf_setThread] at after
  have unused : Drawbridge.uses b.id (r.boardOf e).published = 0 := by
    have := given_le (p.boardOf e)
    have := given_le (r.boardOf e)
    unfold uses at before after
    rw [boardOf_setThread] at after
    omega
  intro c hc
  simpa using List.countP_eq_zero.1 unused c hc

end Start

end Process

end Drawbridge
