import Drawbridge.Proofs.Process.Parts
import Drawbridge.Proofs.SlotMap.Resolution

/-!
# Actions

`Act` has one constructor for each thing that a thread can do next, with the guard under which it
does it; `step?_eq_some_iff` says that these are the steps of a process.  Proofs about steps go by
cases on `Act` and never open `Process.step?`.
-/

namespace Drawbridge.Process

variable {E : Engine} {σ : Type} {host : Host σ} {p q : Process E σ} {t : ThreadId}
  {th : Thread E.Context σ}

/-- An action of thread `t`, which is `th`: what the state becomes apart from the thread, and what
the thread becomes. -/
inductive Act (host : Host σ) (p : Process E σ) (t : ThreadId) (th : Thread E.Context σ) :
    Process E σ → Thread E.Context σ → Prop
  | read {next} (stage : th.stage = .host (.read next)) :
    Act host p t th p { th with stage := .host (next p.memory) }
  | write {memory next} (stage : th.stage = .host (.write memory next)) :
    Act host p t th { p with memory } { th with stage := .host next }
  | resume {body r call calls c} (stage : th.stage = .host body) (result : body.result? = some r)
      (calling : th.calls = call :: calls)
      (engine : (p.entry? call.work.underway.entry).bind (·.engine) = some c) :
    Act host p t th p
      ⟨.work call.work (call.resume (call.invocation.reply (outcomeOf r)) c), calls, th.active.tail⟩
  | createFailed {settings next} (stage : th.stage = .host (.ask (.create settings) next))
      (engine : E.create? settings = none) :
    Act host p t th (p.report [.unallocated])
      { th with stage := .host (next (.error .outOfMemory)) }
  | create {settings next c} (stage : th.stage = .host (.ask (.create settings) next))
      (engine : E.create? settings = some c) :
    Act host p t th ((p.enroll c settings).report [.created])
      { th with stage := .host (next (.ok ⟨p.interpreters.size⟩)) }
  | useClosed {js what next} (stage : th.stage = .host (.ask (.use js what) next))
      (null : (p.handleOf js).isNull = true) :
    Act host p t th p { th with stage := .host (next (.error .closed)) }
  | useDefault {js source next}
      (stage : th.stage = .host (.ask (.use js (.evaluate source none)) next))
      (live : (p.handleOf js).isNull = false) :
    Act host p t th p
      { th with
        stage := .find (p.handleOf js) (.evaluate source (p.settingsOf js).defaultFileName) next }
  | use {js what next} (stage : th.stage = .host (.ask (.use js what) next))
      (live : (p.handleOf js).isNull = false) (named : ∀ source, what ≠ .evaluate source none) :
    Act host p t th p { th with stage := .find (p.handleOf js) what next }
  | closeAgain {js next} (stage : th.stage = .host (.ask (.close js) next))
      (null : (p.handleOf js).isNull = true) :
    Act host p t th (p.nullify js) { th with stage := .host (next ()) }
  | close {js next} (stage : th.stage = .host (.ask (.close js) next))
      (live : (p.handleOf js).isNull = false) :
    Act host p t th (p.nullify js) { th with stage := .vacate (p.handleOf js) (next ()) }
  | drop {js next} (stage : th.stage = .host (.ask (.drop js) next)) :
    Act host p t th (if (p.handleOf js).isNull then p else p.report [.leaked])
      { th with stage := .host (next ()) }
  | handle {js next} (stage : th.stage = .host (.ask (.handle js) next)) :
    Act host p t th p { th with stage := .host (next (p.handleOf js)) }
  | settings {js next} (stage : th.stage = .host (.ask (.settings js) next)) :
    Act host p t th p { th with stage := .host (next (p.settingsOf js)) }
  | references {object next} (stage : th.stage = .host (.ask (.references object) next)) :
    Act host p t th p { th with stage := .host (next (p.references object)) }
  | events {next} (stage : th.stage = .host (.ask .events next)) :
    Act host p t th { p with log := [] } { th with stage := .host (next p.log.reverse) }
  | findClosed {h what back} (stage : th.stage = .find h what back)
      (gone : p.directory.get? h = none) :
    Act host p t th p { th with stage := .host (back (.error .closed)) }
  | findGlobals {h back e} (stage : th.stage = .find h .globals back)
      (found : p.directory.get? h = some e) :
    Act host p t th p { th with stage := .names e back }
  | findEvaluate {h source file back e} (stage : th.stage = .find h (.evaluate source file) back)
      (found : p.directory.get? h = some e) :
    Act host p t th p { th with stage := .lock ⟨e, .evaluate source (file.getD ""), back⟩ }
  | findCollect {h back e} (stage : th.stage = .find h .collect back)
      (found : p.directory.get? h = some e) :
    Act host p t th p { th with stage := .lock ⟨e, .collect, back⟩ }
  | findUnnamed {h name contract object back e}
      (stage : th.stage = .find h (.bind name contract object) back)
      (found : p.directory.get? h = some e) (unnamed : name.isEmpty = true) :
    Act host p t th p { th with stage := .host (back (.error (.bind .unnamed))) }
  | findRefused {h name contract object back e refusal}
      (stage : th.stage = .find h (.bind name contract object) back)
      (found : p.directory.get? h = some e) (named : name.isEmpty = false)
      (check : contract.check (host.facets p.memory object) = .error refusal) :
    Act host p t th (p.report refusal.events)
      { th with stage := .host (back (.error (.bind refusal))) }
  | findBind {h name contract object back e roster}
      (stage : th.stage = .find h (.bind name contract object) back)
      (found : p.directory.get? h = some e) (named : name.isEmpty = false)
      (check : contract.check (host.facets p.memory object) = .ok roster) :
    Act host p t th p { th with stage := .lock ⟨e, .bind name roster object, back⟩ }
  | names {e back x} (stage : th.stage = .names e back) (entry : p.entry? e = some x) :
    Act host p t th p { th with stage := .host (back (.ok x.board.names)) }
  | lock {u x} (stage : th.stage = .lock u) (entry : p.entry? u.entry = some x)
      (free : x.Open t) :
    Act host p t th (p.modifyEntry u.entry (Entry.grab t)) { th with stage := .check u }
  | checkReleased {u x} (stage : th.stage = .check u) (entry : p.entry? u.entry = some x)
      (gone : x.engine = none) :
    Act host p t th p { th with stage := .unlock u (.error .closed) }
  | check {u x c} (stage : th.stage = .check u) (entry : p.entry? u.entry = some x)
      (engine : x.engine = some c) :
    Act host p t th (p.modifyEntry u.entry (Entry.engage u.operation))
      { th with stage := .enter u (x.pending u.operation) }
  | enter {u pending x direct x' c} (stage : th.stage = .enter u pending)
      (entry : p.entry? u.entry = some x) (entrance : entrance? th t u.entry x = some (direct, x'))
      (engine : x.engine = some c) :
    Act host p t th (p.modifyEntry u.entry fun _ => x')
      { th with stage := .work ⟨u, direct, pending⟩ (begin E u.operation pending c) }
  | workDone {w r c} (stage : th.stage = .work w (.done r c)) :
    Act host p t th (p.modifyEntry w.underway.entry fun x => { x with engine := some c })
      { th with stage := .leave w r }
  | workRefused {w target args c resume fault}
      (stage : th.stage = .work w (.call target args c resume))
      (gate : (p.boardOf w.underway.entry).route target args = .error fault) :
    Act host p t th p { th with stage := .work w (resume (.error fault) c) }
  | workCall {w target args c resume invocation}
      (stage : th.stage = .work w (.call target args c resume))
      (gate : (p.boardOf w.underway.entry).route target args = .ok invocation) :
    Act host p t th
      ((p.modifyEntry w.underway.entry fun x => { x with engine := some c }).report
        [invocation.event])
      ⟨.host (host.invoke invocation.binding.object invocation.signature.name invocation.args),
        ⟨w, invocation, resume⟩ :: th.calls, w.underway.entry :: th.active⟩
  | leave {w r} (stage : th.stage = .leave w r) :
    Act host p t th
      (if w.direct then p else p.modifyEntry w.underway.entry fun x => { x with gate := none })
      { th with stage := .publish w r }
  | publish {w r x b y} (stage : th.stage = .publish w r)
      (entry : p.entry? w.underway.entry = some x) (pending : w.pending = some b)
      (ok : r = .ok y) :
    Act host p t th
      ((p.modifyEntry w.underway.entry fun x => { x with board := x.board.commit b }).report
        (.bound b.name b.roster.contract b.roster.size :: x.board.commitEvents b))
      { th with stage := .finish w.underway r }
  | publishNothing {w r} (stage : th.stage = .publish w r)
      (nothing : p.entry? w.underway.entry = none ∨ w.pending = none ∨ ∃ fault, r = .error fault) :
    Act host p t th p { th with stage := .finish w.underway r }
  | finish {u r x} (stage : th.stage = .finish u r) (entry : p.entry? u.entry = some x)
      (more : x.last = false) :
    Act host p t th (p.modifyEntry u.entry Entry.dismiss) { th with stage := .unlock u r }
  | finishLast {u r x} (stage : th.stage = .finish u r) (entry : p.entry? u.entry = some x)
      (last : x.last = true) :
    Act host p t th
      (((p.modifyEntry u.entry Entry.dismiss).modifyEntry u.entry Entry.dropEngine).report
        x.dismiss.farewell)
      { th with stage := .unlock u r }
  | unlock {u r} (stage : th.stage = .unlock u r) :
    Act host p t th (p.modifyEntry u.entry Entry.letGo) { th with stage := .host (u.back r) }
  | vacateNone {h back} (stage : th.stage = .vacate h back)
      (gone : p.directory.get? h = none) :
    Act host p t th p { th with stage := .host back }
  | vacate {h back e} (stage : th.stage = .vacate h back)
      (found : p.directory.get? h = some e) :
    Act host p t th { p with directory := (p.directory.remove h).2 }
      { th with stage := .lockToClose e back }
  | lockToClose {e back x} (stage : th.stage = .lockToClose e back)
      (entry : p.entry? e = some x) (free : x.Open t) :
    Act host p t th (p.modifyEntry e (Entry.grab t)) { th with stage := .destroy e back }
  | defer {e back x} (stage : th.stage = .destroy e back) (entry : p.entry? e = some x)
      (busy : 0 < x.depth) :
    Act host p t th
      ((p.modifyEntry e fun x => { x with closing := true }).report [.deferred])
      { th with stage := .unlockClosed e back }
  | destroy {e back x} (stage : th.stage = .destroy e back) (entry : p.entry? e = some x)
      (idle : x.depth = 0) :
    Act host p t th ((p.modifyEntry e Entry.dropEngine).report x.farewell)
      { th with stage := .unlockClosed e back }
  | unlockClosed {e back} (stage : th.stage = .unlockClosed e back) :
    Act host p t th ((p.modifyEntry e Entry.letGo).report [.closed]) { th with stage := .host back }

/-! ## Steps are actions -/

theorem act_of_ask {r : Request} {next : r.Reply → Program σ MethodResult}
    (stage : th.stage = .host (.ask r next)) :
    ∃ p' th', Act host p t th p' th' ∧ p.ask th t r next = p'.setThread t th' := by
  cases r with
  | create settings =>
    unfold ask
    cases hc : E.create? settings with
    | none => exact ⟨_, _, .createFailed stage hc, by simp only [hc]⟩
    | some c => exact ⟨_, _, .create stage hc, by simp only [hc]; rfl⟩
  | use js what =>
    cases hn : (p.handleOf js).isNull with
    | true => exact ⟨_, _, .useClosed stage hn, by simp only [ask, hn]; rfl⟩
    | false =>
      cases what with
      | evaluate source file =>
        cases file with
        | none => exact ⟨_, _, .useDefault stage hn, by simp only [ask, hn]; rfl⟩
        | some file => exact ⟨_, _, .use stage hn nofun, by simp only [ask, hn]; rfl⟩
      | bind name contract object => exact ⟨_, _, .use stage hn nofun, by simp only [ask, hn]; rfl⟩
      | collect => exact ⟨_, _, .use stage hn nofun, by simp only [ask, hn]; rfl⟩
      | globals => exact ⟨_, _, .use stage hn nofun, by simp only [ask, hn]; rfl⟩
  | close js =>
    cases hn : (p.handleOf js).isNull with
    | true => exact ⟨_, _, .closeAgain stage hn, by simp only [ask, hn]; rfl⟩
    | false => exact ⟨_, _, .close stage hn, by simp only [ask, hn]; rfl⟩
  | drop js => exact ⟨_, _, .drop stage, rfl⟩
  | handle js => exact ⟨_, _, .handle stage, rfl⟩
  | settings js => exact ⟨_, _, .settings stage, rfl⟩
  | references object => exact ⟨_, _, .references stage, rfl⟩
  | events => exact ⟨_, _, .events stage, rfl⟩

variable (host) in
theorem act_of_admission {h : Handle} {what : Use}
    {back : Except BridgeFault what.Result → Program σ MethodResult} {e : EntryId}
    (stage : th.stage = .find h what back) (found : p.directory.get? h = some e) :
    ∃ p' th', Act host p t th p' th' ∧
      admission host p (fun p stage => p.setThread t { th with stage }) e what back
        = p'.setThread t th' := by
  cases what with
  | evaluate source file => exact ⟨_, _, .findEvaluate stage found, rfl⟩
  | collect => exact ⟨_, _, .findCollect stage found, rfl⟩
  | globals => exact ⟨_, _, .findGlobals stage found, rfl⟩
  | bind name contract object =>
    unfold admission
    cases hn : name.isEmpty with
    | true => exact ⟨_, _, .findUnnamed stage found hn, if_pos hn⟩
    | false =>
      cases hc : contract.check (host.facets p.memory object) with
      | error refusal => exact ⟨_, _, .findRefused stage found hn hc, by simp only [hn, hc]; rfl⟩
      | ok roster => exact ⟨_, _, .findBind stage found hn hc, by simp only [hn, hc]; rfl⟩

theorem act_of_return? {body : Program σ MethodResult} {r : Except Panic MethodResult}
    (stage : th.stage = .host body) (result : body.result? = some r)
    (h : p.return? th t r = some q) :
    ∃ p' th', Act host p t th p' th' ∧ q = p'.setThread t th' := by
  unfold return? at h
  cases hcalls : th.calls with
  | nil => simp [hcalls] at h
  | cons call calls =>
    rw [hcalls] at h
    cases hc : (p.entry? call.work.underway.entry).bind (·.engine) with
    | none => simp [hc] at h
    | some c =>
      simp only [hc, Option.some.injEq] at h
      exact ⟨_, _, .resume stage result hcalls hc, h.symm⟩

/-- At a live engine an operation begins. -/
theorem stepThread?_check {u : Underway σ} {x : Entry E.Context} {c : E.Context}
    (stage : th.stage = .check u) (hx : p.entry? u.entry = some x) (hc : x.engine = some c) :
    p.stepThread? host th t
      = some ((p.modifyEntry u.entry (Entry.engage u.operation)).setThread t
          { th with stage := .enter u (x.pending u.operation) }) := by
  unfold stepThread?
  obtain ⟨e, op, back⟩ := u
  simp only [stage, hx, hc]
  cases op with
  | evaluate source file => rfl
  | collect => rfl
  | bind name roster object =>
    have hengage : (p.modifyEntry e fun y =>
        { y with
          depth := y.depth + 1
          pins := y.pins + 1
          board := (x.board.prepare name roster object).2 })
        = p.modifyEntry e (Entry.engage (.bind name roster object)) :=
      modifyEntry_congr hx rfl
    simp only [hengage]
    rfl

/-- The last operation of a closed entry releases the engine. -/
theorem stepThread?_finish {u : Underway σ} {r : Except BridgeFault u.operation.Result}
    {x : Entry E.Context} (stage : th.stage = .finish u r) (hx : p.entry? u.entry = some x) :
    p.stepThread? host th t
      = some ((if x.last then (p.modifyEntry u.entry Entry.dismiss).release u.entry
          else p.modifyEntry u.entry Entry.dismiss).setThread t
            { th with stage := .unlock u r }) := by
  have hdismiss : (p.modifyEntry u.entry fun y =>
      { y with depth := y.depth - 1, pins := y.pins - 1, closing := y.closing && !x.last })
      = p.modifyEntry u.entry Entry.dismiss :=
    modifyEntry_congr hx rfl
  rw [← hdismiss]
  unfold stepThread?
  simp only [stage, hx]
  rfl

variable (host p) in
theorem act_of_dispatch {w : Work E.Context σ} {target : CallTarget} {args : List ScriptValue}
    {c : E.Context}
    {resume : Answer → E.Context →
      Activity E.Context (Except BridgeFault w.underway.operation.Result)}
    (stage : th.stage = .work w (.call target args c resume)) :
    ∃ p' th', Act host p t th p' th' ∧
      p.dispatch host th t w target args c resume = p'.setThread t th' := by
  unfold dispatch
  cases hg : (p.boardOf w.underway.entry).route target args with
  | error fault =>
    refine ⟨_, _, .workRefused stage hg, ?_⟩
    unfold boardOf at hg
    simp only [hg]
  | ok invocation =>
    refine ⟨_, _, .workCall stage hg, ?_⟩
    unfold boardOf at hg
    simp only [hg]

theorem act_of_publish {w : Work E.Context σ}
    {r : Except BridgeFault w.underway.operation.Result} (stage : th.stage = .publish w r)
    (h : p.stepThread? host th t = some q) :
    ∃ p' th', Act host p t th p' th' ∧ q = p'.setThread t th' := by
  unfold stepThread? at h
  simp only [stage] at h
  cases hx : p.entry? w.underway.entry with
  | none =>
    simp only [hx, Option.some.injEq] at h
    exact ⟨_, _, .publishNothing stage (.inl hx), h.symm⟩
  | some x =>
    cases hb : w.pending with
    | none =>
      simp only [hx, hb, Option.some.injEq] at h
      exact ⟨_, _, .publishNothing stage (.inr (.inl hb)), h.symm⟩
    | some b =>
      cases hr : r with
      | error fault =>
        simp only [hx, hb, hr, Option.some.injEq] at h
        exact ⟨_, _, .publishNothing stage (.inr (.inr ⟨fault, hr⟩)), hr ▸ h.symm⟩
      | ok y =>
        simp only [hx, hb, hr, Option.some.injEq] at h
        exact ⟨_, _, .publish stage hx hb hr, hr ▸ h.symm⟩

theorem act_of_check {u : Underway σ} (stage : th.stage = .check u)
    (h : p.stepThread? host th t = some q) :
    ∃ p' th', Act host p t th p' th' ∧ q = p'.setThread t th' := by
  have step := h
  unfold stepThread? at h
  simp only [stage] at h
  cases hx : p.entry? u.entry with
  | none => simp [hx] at h
  | some x =>
    cases hc : x.engine with
    | none =>
      simp only [hx, hc] at h
      exact ⟨_, _, .checkReleased stage hx hc, (Option.some.inj h).symm⟩
    | some c =>
      rw [stepThread?_check stage hx hc] at step
      exact ⟨_, _, .check stage hx hc, (Option.some.inj step).symm⟩

theorem act_of_enter {u : Underway σ} {pending : Option Binding}
    (stage : th.stage = .enter u pending) (h : p.stepThread? host th t = some q) :
    ∃ p' th', Act host p t th p' th' ∧ q = p'.setThread t th' := by
  unfold stepThread? at h
  simp only [stage] at h
  cases hx : p.entry? u.entry with
  | none => simp [hx] at h
  | some x =>
    simp only [hx] at h
    split at h
    · next direct x' c he hc => exact ⟨_, _, .enter stage hx he hc, (Option.some.inj h).symm⟩
    · cases h

theorem act_of_finish {u : Underway σ} {r : Except BridgeFault u.operation.Result}
    (stage : th.stage = .finish u r) (h : p.stepThread? host th t = some q) :
    ∃ p' th', Act host p t th p' th' ∧ q = p'.setThread t th' := by
  cases hx : p.entry? u.entry with
  | none =>
    unfold stepThread? at h
    simp [stage, hx] at h
  | some x =>
    rw [stepThread?_finish stage hx, Option.some_inj] at h
    cases hl : x.last with
    | false =>
      rw [hl] at h
      exact ⟨_, _, .finish stage hx hl, h.symm⟩
    | true =>
      rw [hl, if_pos rfl, release_eq (entry?_modify _ hx)] at h
      exact ⟨_, _, .finishLast stage hx hl, h.symm⟩

theorem act_of_vacate {k : Handle} {back : Program σ MethodResult}
    (stage : th.stage = .vacate k back) (h : p.stepThread? host th t = some q) :
    ∃ p' th', Act host p t th p' th' ∧ q = p'.setThread t th' := by
  unfold stepThread? at h
  simp only [stage] at h
  have hfst := SlotMap.remove_fst p.directory k
  split at h
  · next d hr =>
    rw [hr] at hfst
    exact ⟨_, _, .vacateNone stage hfst.symm, (Option.some.inj h).symm⟩
  · next e d hr =>
    rw [hr] at hfst
    refine ⟨_, _, .vacate stage hfst.symm, ?_⟩
    rw [hr]
    exact (Option.some.inj h).symm

theorem act_of_destroy {e : EntryId} {back : Program σ MethodResult}
    (stage : th.stage = .destroy e back) (h : p.stepThread? host th t = some q) :
    ∃ p' th', Act host p t th p' th' ∧ q = p'.setThread t th' := by
  unfold stepThread? at h
  simp only [stage] at h
  cases hx : p.entry? e with
  | none => simp [hx] at h
  | some x =>
    simp only [hx] at h
    split_ifs at h with hd
    · exact ⟨_, _, .defer stage hx hd, (Option.some.inj h).symm⟩
    · refine ⟨_, _, .destroy stage hx (Nat.eq_zero_of_not_pos hd), ?_⟩
      rw [← release_eq hx]
      exact (Option.some.inj h).symm

theorem act_of_stepThread? (h : p.stepThread? host th t = some q) :
    ∃ p' th', Act host p t th p' th' ∧ q = p'.setThread t th' := by
  have step := h
  unfold stepThread? at h
  cases stage : th.stage with
  | host body =>
    simp only [stage] at h
    cases body with
    | done r => exact act_of_return? stage rfl h
    | panic payload => exact act_of_return? stage rfl h
    | read next => exact ⟨_, _, .read stage, (Option.some.inj h).symm⟩
    | write memory next => exact ⟨_, _, .write stage, (Option.some.inj h).symm⟩
    | ask r next =>
      obtain ⟨p', th', act, e⟩ := act_of_ask (p := p) stage
      exact ⟨p', th', act, (Option.some.inj h).symm.trans e⟩
  | find k what back =>
    simp only [stage] at h
    cases hd : p.directory.get? k with
    | none =>
      simp only [hd] at h
      exact ⟨_, _, .findClosed stage hd, (Option.some.inj h).symm⟩
    | some e =>
      simp only [hd] at h
      obtain ⟨p', th', act, e⟩ := act_of_admission host stage hd
      exact ⟨p', th', act, (Option.some.inj h).symm.trans e⟩
  | names e back =>
    simp only [stage, Option.map_eq_some_iff] at h
    obtain ⟨x, hx, rfl⟩ := h
    exact ⟨_, _, .names stage hx, rfl⟩
  | lock u =>
    simp only [stage, Option.map_eq_some_iff] at h
    obtain ⟨p₁, ha, rfl⟩ := h
    obtain ⟨x, hx, hopen, rfl⟩ := acquire?_eq_some_iff.1 ha
    exact ⟨_, _, .lock stage hx hopen, rfl⟩
  | check u => exact act_of_check stage step
  | enter u pending => exact act_of_enter stage step
  | work w a =>
    simp only [stage] at h
    cases a with
    | done r c => exact ⟨_, _, .workDone stage, (Option.some.inj h).symm⟩
    | call target args c resume =>
      obtain ⟨p', th', act, e⟩ := act_of_dispatch host p stage
      exact ⟨p', th', act, (Option.some.inj h).symm.trans e⟩
  | leave w r =>
    simp only [stage] at h
    exact ⟨_, _, .leave stage, (Option.some.inj h).symm⟩
  | publish w r => exact act_of_publish stage step
  | finish u r => exact act_of_finish stage step
  | unlock u r =>
    simp only [stage] at h
    exact ⟨_, _, .unlock stage, (Option.some.inj h).symm⟩
  | vacate k back => exact act_of_vacate stage step
  | lockToClose e back =>
    simp only [stage, Option.map_eq_some_iff] at h
    obtain ⟨p₁, ha, rfl⟩ := h
    obtain ⟨x, hx, hopen, rfl⟩ := acquire?_eq_some_iff.1 ha
    exact ⟨_, _, .lockToClose stage hx hopen, rfl⟩
  | destroy e back => exact act_of_destroy stage step
  | unlockClosed e back =>
    simp only [stage] at h
    exact ⟨_, _, .unlockClosed stage, (Option.some.inj h).symm⟩

/-! ## Actions are steps -/

theorem stepThread?_ended {body : Program σ MethodResult} {r : Except Panic MethodResult}
    (stage : th.stage = .host body) (result : body.result? = some r) :
    p.stepThread? host th t = p.return? th t r := by
  unfold stepThread?
  rw [stage]
  cases body <;> simp_all [Program.result?]

theorem Act.stepThread? {p' : Process E σ} {th' : Thread E.Context σ}
    (act : Act host p t th p' th') : p.stepThread? host th t = some (p'.setThread t th') := by
  cases act with
  | resume stage result calling engine =>
    rw [stepThread?_ended stage result]
    simp [return?, calling, engine]
  | createFailed stage engine => simp [Process.stepThread?, stage, ask, engine]
  | create stage engine => simp [Process.stepThread?, stage, ask, engine, enroll]
  | useClosed stage null => simp [Process.stepThread?, stage, ask, null]
  | useDefault stage live => simp [Process.stepThread?, stage, ask, live]
  | @use js what next stage live named =>
    cases what with
    | evaluate source file =>
      cases file with
      | none => exact absurd rfl (named source)
      | some file => simp [Process.stepThread?, stage, ask, live]
    | _ => simp [Process.stepThread?, stage, ask, live]
  | closeAgain stage null => simp [Process.stepThread?, stage, ask, null, nullify]
  | close stage live => simp [Process.stepThread?, stage, ask, live, nullify]
  | findClosed stage gone => simp [Process.stepThread?, stage, gone]
  | findGlobals stage found => simp [Process.stepThread?, stage, found, admission]
  | findEvaluate stage found => simp [Process.stepThread?, stage, found, admission]
  | findCollect stage found => simp [Process.stepThread?, stage, found, admission]
  | findUnnamed stage found unnamed => simp_all [Process.stepThread?, admission]
  | findRefused stage found named check => simp_all [Process.stepThread?, admission]
  | findBind stage found named check => simp_all [Process.stepThread?, admission]
  | names stage entry => simp [Process.stepThread?, stage, entry]
  | lock stage entry free =>
    simp [Process.stepThread?, stage, acquire?_eq_some_iff.2 ⟨_, entry, free, rfl⟩]
  | checkReleased stage entry gone => simp [Process.stepThread?, stage, entry, gone]
  | check stage entry engine => exact stepThread?_check stage entry engine
  | enter stage entry entrance engine =>
    simp [Process.stepThread?, stage, entry, entrance, engine]
  | workRefused stage gate =>
    unfold boardOf at gate
    simp [Process.stepThread?, stage, dispatch, gate]
  | workCall stage gate =>
    unfold boardOf at gate
    simp [Process.stepThread?, stage, dispatch, gate]
  | publish stage entry pending ok =>
    subst ok
    simp [Process.stepThread?, stage, entry, pending]
  | @publishNothing w r stage nothing =>
    unfold Process.stepThread?
    simp only [stage]
    cases hx : p.entry? w.underway.entry <;> cases hb : w.pending <;> cases r <;> simp_all
  | finish stage entry more => rw [stepThread?_finish stage entry, more]; rfl
  | finishLast stage entry last =>
    rw [stepThread?_finish stage entry, last, if_pos rfl, release_eq (entry?_modify _ entry)]
  | @vacateNone h back stage gone =>
    rcases SlotMap.remove_cases p.directory h with ⟨-, e⟩ | ⟨a, ha, -⟩
    · simp [Process.stepThread?, stage, e]
    · rw [gone] at ha
      cases ha
  | @vacate h back e stage found =>
    unfold Process.stepThread?
    simp only [stage]
    have hfst := SlotMap.remove_fst p.directory h
    split
    · next d hr => simp_all
    · next a d hr => simp_all
  | lockToClose stage entry free =>
    simp [Process.stepThread?, stage, acquire?_eq_some_iff.2 ⟨_, entry, free, rfl⟩]
  | defer stage entry busy => simp [Process.stepThread?, stage, entry, busy]
  | destroy stage entry idle => simp [Process.stepThread?, stage, entry, idle, release_eq entry]
  | read stage | write stage | drop stage | handle stage | settings stage | references stage
  | events stage | workDone stage | leave stage | unlock stage | unlockClosed stage =>
    simp [Process.stepThread?, stage, ask, giveBack_eq]

/-- The steps of a process are the actions of its threads. -/
theorem step?_eq_some_iff :
    p.step? host t = some q ↔
      ∃ th p' th', p.threads[t.index]? = some th ∧ Act host p t th p' th' ∧
        q = p'.setThread t th' := by
  unfold step?
  constructor
  · intro h
    cases hth : p.threads[t.index]? with
    | none => simp [hth] at h
    | some th =>
      rw [hth] at h
      obtain ⟨p', th', act, e⟩ := act_of_stepThread? h
      exact ⟨th, p', th', rfl, act, e⟩
  · rintro ⟨th, p', th', hth, act, rfl⟩
    rw [hth]
    exact act.stepThread?

theorem Act.step?_eq {p' : Process E σ} {th' : Thread E.Context σ}
    (act : Act host p t th p' th') (at_t : p.threads[t.index]? = some th) :
    p.step? host t = some (p'.setThread t th') :=
  step?_eq_some_iff.2 ⟨th, p', th', at_t, act, rfl⟩

/-- A thread has one action at most. -/
theorem Act.eq_of_step? {p' : Process E σ} {th' : Thread E.Context σ}
    (act : Act host p t th p' th') (at_t : p.threads[t.index]? = some th)
    (next : p.step? host t = some q) : q = p'.setThread t th' := by
  rw [act.step?_eq at_t] at next
  exact (Option.some.inj next).symm

/-- A thread that waits for a lock goes on as it has it. -/
theorem Act.of_lock {p' : Process E σ} {th' : Thread E.Context σ} {u : Underway σ}
    (act : Act host p t th p' th') (stage : th.stage = .lock u) :
    th' = { th with stage := .check u } := by
  cases act with
  | lock stage' => rw [Stage.lock.inj (stage.symm.trans stage')]
  | _ => simp_all

/-- A thread that enters an engine finds it there. -/
theorem Act.of_enter {p' : Process E σ} {th' : Thread E.Context σ} {u : Underway σ}
    {pending : Option Binding} (act : Act host p t th p' th')
    (stage : th.stage = .enter u pending) :
    ∃ direct c,
      th' = { th with stage := .work ⟨u, direct, pending⟩ (begin E u.operation pending c) } := by
  cases act with
  | enter stage' =>
    obtain ⟨rfl, rfl⟩ := Stage.enter.inj (stage.symm.trans stage')
    exact ⟨_, _, rfl⟩
  | _ => simp_all

end Drawbridge.Process
