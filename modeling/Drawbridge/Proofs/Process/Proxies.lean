import Drawbridge.Proofs.Process.Binds
import Drawbridge.Proofs.Process.HostCalls
import Drawbridge.Proofs.Script.Installation

/-!
# Calls of proxies

A bind makes a binding, and the functions of its proxy call this binding for good.  The gate asks
for the name alone, and a name that was published stays until the engine is released (`Run.names`):
not before the last operation inside has ended, whatever was closed or bound meanwhile.  So a call
that a script makes after the bind is checked against the method table of this bind and reaches its
object (`Left.reaches`).
-/

namespace Drawbridge

/-- A small engine: each script calls the first method of what was bound first, two times. -/
def Engine.elder : Engine where
  Context := List Binding
  create? _ := some []
  evaluate _ _ bindings :=
    match bindings.getLast? with
    | none => .done (.ok "") bindings
    | some b => .call ⟨b, 0⟩ [] bindings fun _ bindings =>
      .call ⟨b, 0⟩ [] bindings fun _ bindings => .done (.ok "") bindings
  install b bindings := .done (.ok ()) (b :: bindings)
  collect := id
  proxies := id

/-- The arguments are as many as the method at a place takes, and each is read as its parameter. -/
structure Roster.Fits (roster : Roster) (index : Nat) (args : List ScriptValue) (s : Signature)
    (ds : List Datum) : Prop where
  method : roster.method? index = some s
  arity : args.length = s.arity
  reads : List.zipWith ScriptValue.read s.params args = ds.map .ok

/-- Under a published name the gate admits what fits the binding that is called. -/
theorem Roster.Fits.admits {board : Switchboard} {binding : Binding} {index : Nat}
    {args : List ScriptValue} {s : Signature} {ds : List Datum}
    (fits : binding.roster.Fits index args s ds)
    (published : (board.get? binding.name).isSome) :
    board.Admits ⟨binding, index⟩ args ⟨binding, s, ds⟩ :=
  ⟨published, rfl, fits.method, fits.arity, fits.reads⟩

theorem Switchboard.Admits.fits {board : Switchboard} {target : CallTarget}
    {args : List ScriptValue} {i : Invocation} (admits : board.Admits target args i) :
    target.binding.roster.Fits target.method args i.signature i.args :=
  ⟨admits.method, admits.arity, admits.reads⟩

/-- Where the name is published, a call is not refused for want of it. -/
theorem Switchboard.Refuses.ne_unknownGlobal {board : Switchboard} {target : CallTarget}
    {args : List ScriptValue} {fault : CallFault} (refuses : board.Refuses target args fault)
    (published : (board.get? target.binding.name).isSome) (name : String) :
    fault ≠ .unknownGlobal name := by
  cases refuses with
  | unknownGlobal unpublished =>
    rw [unpublished] at published
    cases published
  | unknownMethod | arity | mismatch => nofun

namespace Process

variable {E : Engine} {σ : Type} {host : Host σ} {p q : Process E σ} {t : ThreadId}
  {th : Thread E.Context σ} {e : EntryId} {x : Entry E.Context} {memory : σ}
  {programs : List (Program σ MethodResult)} {past : List (Moment E σ)}

/-! ## Names stay -/

/-- What is published is published for as long as the engine is not released. -/
theorem Run.names {later : List (Moment E σ)} (toP : Run host (start E memory programs) past p)
    (run : Run host p later q) {x y : Entry E.Context} (hx : p.entry? e = some x)
    (hy : q.entry? e = some y) (unreleased : y.releases = 0) :
    ∀ name ∈ x.board.names, name ∈ y.board.names := by
  intro name hname
  obtain ⟨y', hy', hle, stay⟩ := run.entry (toP.sound SlotMap.sound_empty) hx
  obtain rfl := Option.some.inj (hy.symm.trans hy')
  rw [Switchboard.mem_names_iff] at hname ⊢
  exact stay (by omega) name hname

/-! ## What a call reaches -/

section Dispatch

variable {w : Work E.Context σ} {binding : Binding} {index : Nat} {args : List ScriptValue}
  {c : E.Context}
  {resume : Answer → E.Context →
    Activity E.Context (Except BridgeFault w.underway.operation.Result)}
  {q' z : Process E σ} {inner : List (Moment E σ)}

/-- A call from script that fits a method table is carried out once, on the object, and the engine
goes on with what came of it. Any other is told in what it does not fit, and nothing is carried
out. -/
structure Dispatch.Reaches
    (_ : Dispatch host t th w ⟨binding, index⟩ args c resume q q' z inner) (roster : Roster)
    (object : ObjectId) : Prop where
  fitting : ∀ s ds, roster.Fits index args s ds →
    invocations host t th.calls.length (inner ++ [⟨q, t⟩]) = [⟨binding, s, ds⟩] ∧
    q'.threads[t.index]? = some
      ⟨.host (host.invoke object s.name ds),
        ⟨w, ⟨binding, s, ds⟩, resume⟩ :: th.calls, w.underway.entry :: th.active⟩ ∧
    (z.nesting t = th.calls.length → ∃ outcome c', z.threads[t.index]? = some
      ⟨.work w (resume (Invocation.reply ⟨binding, s, ds⟩ outcome) c'), th.calls, th.active⟩)
  unfit : (∀ s ds, ¬ roster.Fits index args s ds) → ∃ fault,
    (q.boardOf w.underway.entry).Refuses ⟨binding, index⟩ args fault ∧
    (∀ name, fault ≠ .unknownGlobal name) ∧
    invocations host t th.calls.length (inner ++ [⟨q, t⟩]) = [] ∧
    z = q.setThread t { th with stage := .work w (resume (.error fault) c) }

theorem Dispatch.reaches
    (dispatch : Dispatch host t th w ⟨binding, index⟩ args c resume q q' z inner)
    (published : ((q.boardOf w.underway.entry).get? binding.name).isSome) :
    dispatch.Reaches binding.roster binding.object where
  fitting _ _ fits := dispatch.admitted (fits.admits published)
  unfit never := by
    rcases (q.boardOf w.underway.entry).admits_or_refuses ⟨binding, index⟩ args with
      ⟨i, admits, -⟩ | ⟨fault, refuses, -⟩
    · exact absurd admits.fits (never i.signature i.args)
    · obtain ⟨nothing, answered⟩ := dispatch.refused refuses
      exact ⟨fault, refuses, refuses.ne_unknownGlobal published, nothing, answered⟩

end Dispatch

namespace BindRequest

variable {k : BindRequest E σ} {b b' d : Process E σ} {before within later : List (Moment E σ)}
  {roster : Roster} {binding : Binding}

/-- What a bind makes goes by its name, has the method table that it was accepted with and its
object. -/
theorem Begun.binding_eq (begun : k.Begun host b past roster binding) :
    binding.name = k.name ∧ binding.roster = roster ∧ binding.object = k.object := by
  obtain ⟨m, x, -, -, -, made⟩ := begun.live
  rw [made]
  exact ⟨rfl, rfl, rfl⟩

/-- A bind that succeeds has made a binding, which the engine has installed, and has published
it. -/
theorem Answers.installed {ds : List Switchboard.Move}
    (answer : k.Answers host b past (.ok ()) ds) :
    ∃ roster binding c, k.Begun host b past roster binding ∧
      (E.install binding c).Yields (.ok ()) ∧ k.Left past roster binding (.ok ()) ∧
      ds = [k.prepares roster, .commit binding] := by
  cases answer with
  | bound begun succeeds left => exact ⟨_, _, _, begun, succeeds, left, rfl⟩

/-- A binding that was installed is published, and from then on its name is, until the engine is
released. -/
theorem Left.published (left : k.Left past roster binding (.ok ()))
    (reach : Run host (start E memory programs) before b) (run : Run host b past d)
    (after : Run host d later q) (hx : q.entry? k.entry = some x) (unreleased : x.releases = 0) :
    (x.board.get? binding.name).isSome := by
  obtain ⟨m, direct, mem, own, at_t⟩ := left
  obtain ⟨before', r, after', toM, next, toD, -⟩ := run.split_step mem
  rw [own] at next
  have reachM := reach.trans toM
  have reachR := reachM.step next
  obtain ⟨y, hy⟩ := (reachM.kept k.entry).exists_entry at_t (holds_staged (if_pos rfl))
  have publishing := (Act.publish rfl hy rfl rfl).eq_of_step? at_t next
  have hr : r.entry? k.entry = some { y with board := y.board.commit binding } := by
    rw [publishing]
    exact entry?_modify _ hy
  have hname : binding.name ∈ (y.board.commit binding).names := by
    rw [Switchboard.mem_names_iff, Switchboard.get?_commit, if_pos rfl]
    rfl
  rw [← Switchboard.mem_names_iff]
  exact reachR.names (toD.trans after) hr hx unreleased _ hname

/-- A call that a script makes after the bind reaches what was bound. -/
theorem Left.reaches (left : k.Left past roster binding (.ok ()))
    (begun : k.Begun host b past roster binding)
    (reach : Run host (start E memory programs) before b) (run : Run host b past d)
    (after : Run host d later q) {w : Work E.Context σ} {index : Nat} {args : List ScriptValue}
    {c : E.Context}
    {resume : Answer → E.Context →
      Activity E.Context (Except BridgeFault w.underway.operation.Result)}
    {q' z : Process E σ} {inner : List (Moment E σ)}
    (dispatch : Dispatch host t th w ⟨binding, index⟩ args c resume q q' z inner)
    (same : w.underway.entry = k.entry) : dispatch.Reaches roster k.object := by
  -- the script runs inside the engine, which is therefore not released
  have inside : 0 < th.inside k.entry := by simp [dispatch.stage, same]
  obtain ⟨x, hx, unreleased⟩ :=
    ((reach.trans run).trans after).releases_of_inside dispatch.at_t inside
  have published := left.published reach run after hx unreleased
  rw [← boardOf_eq hx, ← same] at published
  obtain ⟨-, hroster, hobject⟩ := begun.binding_eq
  exact hroster ▸ hobject ▸ dispatch.reaches published

/-- A bind that succeeds has made a binding of its own contract and object, has had the engine
install its proxy and has published it. Whatever is bound, closed or called after that, by any
thread and from within any call, a call of this binding is checked against the method table of this
bind and reaches its object; it is never told that the global is unknown. Names that are published
stay until the engine is released. Where scripts leave the way clear, the global has under the name
of each method the function for its place, and who calls such a function calls its binding at this
place. -/
theorem proxy_keeps_binding (asked : k.Asked host b b' d within)
    (reach : Run host (start E memory programs) before b) :
    let past := k.during b within
    (∃ r, d.threads[k.t.index]? = some (k.staged (.host (k.next r))) ∧
      k.Answers host b past r (k.deeds past) ∧
      (r = .ok () → ∃ roster binding c, k.Begun host b past roster binding ∧
        (E.install binding c).Yields (.ok ()) ∧
        k.deeds past = [k.prepares roster, .commit binding] ∧
        binding.name = k.name ∧ binding.roster = roster ∧ binding.object = k.object ∧
        (roster.methods.map (·.name)).Nodup ∧
        ∀ later q, Run host d later q →
          (∀ x, q.entry? k.entry = some x → x.releases = 0 → k.name ∈ x.board.names) ∧
          ∀ {t th w index args c resume q' z inner}
            (dispatch : Dispatch host t th w ⟨binding, index⟩ args c resume q q' z inner),
            w.underway.entry = k.entry → dispatch.Reaches roster k.object)) ∧
    (∀ e past p later q x y, Run host (start E memory programs) past p → Run host p later q →
      p.entry? e = some x → q.entry? e = some y → y.releases = 0 →
      ∀ name ∈ x.board.names, name ∈ y.board.names) ∧
    (∀ (binding : Binding) (m : Script.Machine) call, m.Receives binding →
      (binding.roster.methods.map (·.name)).Nodup → ∃ m',
        Script.Exec.installProxy binding call m = .done (.ok ()) m' ∧ m'.Offers binding) ∧
    ∀ (i : Script.Invocation) r target m call, i.callee = .object r →
      (m.object r).nature = .proxy target → ∃ resume,
        Script.Exec.call i call m = .call target (i.args.map m.toBridge) m resume := by
  intro past
  have run := asked.toRun
  obtain ⟨s, at_t, phase⟩ := (asked.progress reach).phase
  obtain ⟨r, rfl, answer, -⟩ := phase.answered_of_back at_t asked.back
  refine ⟨⟨r, at_t, answer, ?_⟩, ?_, ?_, ?_⟩
  · rintro rfl
    obtain ⟨roster, binding, c, begun, succeeds, left, deeds⟩ := answer.installed
    obtain ⟨hname, hroster, hobject⟩ := begun.binding_eq
    obtain ⟨_, -, checked⟩ := begun.found
    refine ⟨roster, binding, c, begun, succeeds, deeds, hname, hroster, hobject,
      Contract.distinct_of_check checked,
      fun later q after => ⟨fun x hx unreleased => ?_, fun dispatch same => ?_⟩⟩
    · rw [← hname, Switchboard.mem_names_iff]
      exact left.published reach run after hx unreleased
    · exact left.reaches begun reach run after dispatch same
  · exact fun e past p later q x y toP onwards hx hy => toP.names onwards hx hy
  · exact fun binding m call receives distinct =>
      Script.Exec.installProxy_offers receives distinct call
  · exact fun i r target m call callee nature => ⟨_, Script.Exec.call_proxy callee nature call⟩

/-- A host that binds a name again, with another method in the place of the first. -/
def rebound : Process .elder Unit :=
  start .elder ()
    [.ask (.create default) fun _ =>
      .ask (.use ⟨0⟩ (.bind "door" ⟨"Door", false, [], [⟨"shut", [], .void⟩]⟩ ⟨0⟩)) fun _ =>
      .ask (.use ⟨0⟩
        (.bind "door" ⟨"Gate", false, [], [⟨"lift", [], .void⟩, ⟨"shut", [], .void⟩]⟩ ⟨1⟩)) fun _ =>
      .ask (.use ⟨0⟩ (.evaluate "shut(); shut()" none)) fun _ => .done (.ok .void)]

/-- The method that a script calls first closes the interpreter. The second call, of a proxy whose
global is another by now, still shuts the first object. -/
theorem proxy_keeps_binding_rebound :
    ∃ (q q' : Process .elder Unit) (other : Binding),
      rebound.follow closer (List.replicate 33 ⟨0⟩) = some q ∧ (q.handleOf ⟨0⟩).isNull = true ∧
      q.step? closer ⟨0⟩ = some q' ∧ (q.boardOf ⟨0⟩).get? "door" = some other ∧
      other.object = ⟨1⟩ ∧ other.roster.method? 0 = some ⟨"lift", [], .void⟩ ∧
      invocations closer ⟨0⟩ 0 [⟨q, ⟨0⟩⟩] = [⟨door, ⟨"shut", [], .void⟩, []⟩] := by
  obtain ⟨b, b', d, q, q', th, next, th', w, c, resume, other, reached, at_t, stage, step, run,
      finds, running, back, deeds, at_q, working, call, after, whole, null, published, object,
      method, calls, entry⟩ :
      ∃ (b b' d q q' : Process .elder Unit) (th : Thread Engine.elder.Context Unit)
        (next : Except BridgeFault Unit → Program Unit MethodResult)
        (th' : Thread Engine.elder.Context Unit) (w : Work Engine.elder.Context Unit)
        (c : Engine.elder.Context)
        (resume : Answer → Engine.elder.Context → Activity Engine.elder.Context
          (Except BridgeFault w.underway.operation.Result)) (other : Binding),
        let k : BindRequest .elder Unit :=
          ⟨⟨0⟩, th, ⟨0⟩, ⟨0⟩, "door", ⟨"Door", false, [], [⟨"shut", [], .void⟩]⟩, ⟨0⟩, next⟩
        let within := b'.moments closer (List.replicate 9 ⟨0⟩)
        rebound.follow closer [⟨0⟩] = some b ∧ b.threads[0]? = some th ∧
        th.stage = .host (.ask (.use k.js (.bind k.name k.contract k.object)) next) ∧
        b.step? closer ⟨0⟩ = some b' ∧ b'.follow closer (List.replicate 9 ⟨0⟩) = some d ∧
        (∀ m ∈ within, m.process.directory.get? (b.handleOf ⟨0⟩) = some ⟨0⟩) ∧
        (∀ m ∈ within, ¬ k.Back m.process) ∧ k.Back d ∧
        k.deeds (k.during b within)
          = [k.prepares ⟨"Door", [⟨"shut", [], .void⟩]⟩, .commit door] ∧
        q.threads[0]? = some th' ∧ th'.stage = .work w (.call ⟨door, 0⟩ [] c resume) ∧
        q.step? closer ⟨0⟩ = some q' ∧ d.follow closer (List.replicate 22 ⟨0⟩) = some q ∧
        rebound.follow closer (List.replicate 33 ⟨0⟩) = some q ∧
        (q.handleOf ⟨0⟩).isNull = true ∧ (q.boardOf ⟨0⟩).get? "door" = some other ∧
        other.object = ⟨1⟩ ∧ other.roster.method? 0 = some ⟨"lift", [], .void⟩ ∧
        th'.calls.length = 0 ∧ w.underway.entry = ⟨0⟩ :=
    ⟨_, _, _, _, _, _, _, _, _, _, _, _, rfl, rfl, rfl, rfl, rfl, by decide, by decide, by decide,
      rfl, rfl, rfl, rfl, rfl, rfl, rfl, rfl, rfl, rfl, rfl, rfl⟩
  let k : BindRequest .elder Unit :=
    ⟨⟨0⟩, th, ⟨0⟩, ⟨0⟩, "door", ⟨"Door", false, [], [⟨"shut", [], .void⟩]⟩, ⟨0⟩, next⟩
  have asked : k.Asked closer b b' d (b'.moments closer (List.replicate 9 ⟨0⟩)) :=
    ⟨at_t, stage, step, .of_follow run,
      fun m e here found => Option.some.inj (found.symm.trans (finds m here.mem)), running, back⟩
  obtain ⟨⟨r, -, answer, succeeded⟩, -⟩ := proxy_keeps_binding asked (.of_follow reached)
  rw [deeds] at answer
  obtain rfl : r = .ok () := by cases answer; rfl
  obtain ⟨roster, binding, -, -, -, deeds', -, hroster, -, -, kept⟩ := succeeded rfl
  obtain rfl : door = binding := by
    have same := deeds.symm.trans deeds'
    simp only [List.cons.injEq, Switchboard.Move.commit.injEq] at same
    exact same.2.1
  have dispatch : Dispatch closer ⟨0⟩ th' w ⟨door, 0⟩ [] c resume q q' q' [] :=
    ⟨at_q, working, call, .refl, nofun⟩
  have reaches := (kept _ q (.of_follow after)).2 dispatch entry
  have fits : roster.Fits 0 [] ⟨"shut", [], .void⟩ [] := hroster ▸ ⟨rfl, rfl, rfl⟩
  exact ⟨q, q', other, whole, null, call, published, object, method,
    calls ▸ (reaches.fitting _ _ fits).1⟩

end BindRequest

end Process

end Drawbridge
