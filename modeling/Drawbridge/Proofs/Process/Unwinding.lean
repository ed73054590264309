import Drawbridge.Proofs.Process.Solo
import Drawbridge.Proofs.Switchboard.Outcomes

/-!
# Faults on their way out

A method of the host fails that a script has called, and the script leaves the error uncaught; the
host method that has evaluated the script fails with what it was told, and so on outwards.
`Reports` says what the outermost host code is told: every method and then the first failure, in
order (`Reports.message_eq`).  `Run.unwinds` is by induction on the evaluations under way, the
innermost of which ends first, and says what becomes of the interpreters.
-/

namespace Drawbridge

variable {C : Type} {E : Engine} {σ : Type}

/-! ## What the host is told -/

/-- Where a script calls a method of the host. -/
structure Site where
  /-- the name that the script was evaluated under -/
  name : String
  call : Invocation

namespace Site

/-- What the host is told where the method has failed with a text. -/
def fault (k : Site) (text : String) (line : Option UInt32) : ScriptFault where
  message := "Error: " ++ (k.call.method ++ " failed: " ++ text)
  file := some k.name
  line

/-- What the message of a fault of this site begins with. -/
def heading (k : Site) : String := "Error: " ++ k.call.method ++ " failed: "

/-- What is added to it where it is told. -/
def place (k : Site) : Option UInt32 → String
  | some line => " (" ++ k.name ++ ":" ++ toString line ++ ")"
  | none => " (" ++ k.name ++ ")"

theorem message_fault (k : Site) (text : String) (line : Option UInt32) :
    (k.fault text line).message = k.heading ++ text := by
  simp only [fault, heading, String.append_assoc]

theorem describe_fault (k : Site) (text : String) (line : Option UInt32) :
    (k.fault text line).describe = (k.fault text line).message ++ k.place line := by
  cases line <;> rfl

end Site

/-- The fault that the outermost of nested scripts comes to, where the innermost method has failed
with a text. Each has in its message what is told of the one within. -/
inductive Reports (text : String) : Site → List Site → ScriptFault → Prop
  | last {k line} : Reports text k [] (k.fault text line)
  | outer {k k' rest fault line} (inner : Reports text k' rest fault) :
    Reports text k (k' :: rest) (k.fault fault.describe line)

namespace Reports

variable {text : String} {k k' : Site} {rest : List Site} {fault : ScriptFault}

theorem exists_fault (reports : Reports text k rest fault) :
    ∃ text' line, fault = k.fault text' line := by
  cases reports with
  | last => exact ⟨_, _, rfl⟩
  | outer => exact ⟨_, _, rfl⟩

/-- One more script within. -/
theorem concat {line : Option UInt32}
    (reports : Reports (k'.fault text line).describe k rest fault) :
    Reports text k (rest ++ [k']) fault := by
  induction reports with
  | last => exact .outer .last
  | outer inner ih => exact .outer ih

/-- The methods are named from the outermost on, then comes the first failure, and then the places
from the innermost script to the outermost but one. -/
theorem message_eq (reports : Reports text k rest fault) :
    ∃ lines : List (Option UInt32), lines.length = rest.length ∧
      fault.message = String.join ((k :: rest).map Site.heading) ++ text
        ++ String.join (List.zipWith Site.place rest lines).reverse := by
  induction reports with
  | last => exact ⟨[], rfl, by simp [Site.message_fault]⟩
  | @outer k k' rest fault line inner ih =>
    obtain ⟨lines, count, message⟩ := ih
    obtain ⟨text', line', rfl⟩ := inner.exists_fault
    refine ⟨line' :: lines, by simp [count], ?_⟩
    rw [Site.message_fault, Site.describe_fault, message]
    simp [String.append_assoc]

end Reports

/-! ## Evaluations under way -/

/-- The host method is at its end and has failed; a script is told this text. -/
inductive Program.FailsWith : Program σ MethodResult → String → Prop
  | failed (message : String) : FailsWith (.done (.error message)) message
  | panicked (s : String) : FailsWith (.panic (.text s)) ("panicked: " ++ s)

theorem Program.FailsWith.exists_result {body : Program σ MethodResult} {text : String}
    (fails : body.FailsWith text) (i : Invocation) : ∃ r, body.result? = some r ∧
      i.reply (Process.outcomeOf r) = .error (.host i.method text) := by
  cases fails with
  | failed => exact ⟨_, rfl, rfl⟩
  | panicked => exact ⟨_, rfl, rfl⟩

/-- A script that waits for the host leaves an error uncaught, and the engine gives its text. It
leaves the engine `sound`. -/
def Uncaught (sound : C → Prop) (resume : Answer → C → Activity C (Except Failure String)) :
    Prop :=
  ∀ fault c, fault.severity = .plain → sound c → ∃ stack c', resume (.error fault) c
    = .done (.error (.thrown (some ("Error: " ++ fault.message)) stack)) c' ∧ sound c'

/-- What is made of the result of a script. -/
def evaluated (name : String) : Except Failure String → Except BridgeFault String
  | .ok text => .ok text
  | .error failure => .error (.script (failure.toFault name))

/-- In an evaluation the engine runs a script, and there is no binding to publish. -/
def OfScript : (op : Operation) → Option Binding →
    Activity C (Except BridgeFault op.Result) → Prop
  | .evaluate _ name, pending, a =>
    pending = none ∧ ∃ script : Activity C (Except Failure String), a = script.map (evaluated name)
  | _, _, _ => True

theorem OfScript.exists_resume {source name : String} {pending : Option Binding}
    {target : CallTarget} {args : List ScriptValue} {c : C}
    {resume : Answer → C → Activity C (Except BridgeFault String)}
    (ofScript : OfScript (.evaluate source name) pending (.call target args c resume)) :
    pending = none ∧ ∃ script : Answer → C → Activity C (Except Failure String),
      resume = fun answer d => (script answer d).map (evaluated name) := by
  obtain ⟨none, script, eq⟩ := ofScript
  cases script with
  | done => cases eq
  | call target' args' c' script =>
    obtain ⟨-, -, -, rfl⟩ := Activity.call.inj eq
    exact ⟨none, script, rfl⟩

theorem OfScript.resume {op : Operation} {pending : Option Binding} {target : CallTarget}
    {args : List ScriptValue} {c : C}
    {resume : Answer → C → Activity C (Except BridgeFault op.Result)}
    (ofScript : OfScript op pending (.call target args c resume)) (answer : Answer) (d : C) :
    OfScript op pending (resume answer d) := by
  cases op with
  | evaluate source name =>
    obtain ⟨none, script, rfl⟩ := OfScript.exists_resume ofScript
    exact ⟨none, _, rfl⟩
  | bind | collect => trivial

/-- The thread is about to go into an engine, or inside. -/
def Stage.atEngine : Stage C σ → Bool
  | .enter .. | .work .. => true
  | _ => false

/-- What an engine does for a thread, and will do as it is answered. -/
structure Thread.Scripted (th : Thread E.Context σ) : Prop where
  entering : ∀ u pending, th.stage = .enter u pending →
    ∀ c, OfScript u.operation pending (Process.begin E u.operation pending c)
  working : ∀ w a, th.stage = .work w a → OfScript w.underway.operation w.pending a
  waiting : ∀ call ∈ th.calls, ∃ target args c,
    OfScript call.work.underway.operation call.work.pending (.call target args c call.resume)

namespace Process

/-- An evaluation whose script waits for the host. -/
structure Floor (C σ : Type) extends Site where
  entry : EntryId
  source : String
  back : Except BridgeFault String → Program σ MethodResult
  direct : Bool
  resume : Answer → C → Activity C (Except Failure String)

namespace Floor

/-- The call of the host that the script waits for. -/
def frame (f : Floor C σ) : HostCall C σ where
  work := ⟨⟨f.entry, .evaluate f.source f.name, f.back⟩, f.direct, none⟩
  invocation := f.call
  resume answer c := (f.resume answer c).map (evaluated f.name)

/-- The host code that evaluates fails with the text of what it is told. -/
def Relays (f : Floor C σ) : Prop :=
  ∀ fault s, ∃ s', Program.Leads s (f.back (.error fault)) s' (.done (.error fault.message))

end Floor

variable {host : Host σ} {p q r : Process E σ} {t : ThreadId} {e : EntryId} {x : Entry E.Context}
  {s : σ} {k f : Floor E.Context σ} {rest : List (Floor E.Context σ)} {text : String}
  {body : Program σ MethodResult} {below : List (HostCall E.Context σ)} {active : List EntryId}
  {memory : σ} {programs : List (Program σ MethodResult)} {past : List (Moment E σ)}

theorem Act.scripted {p' : Process E σ} {th th' : Thread E.Context σ}
    (act : Act host p t th p' th') (scripted : th.Scripted) : th'.Scripted := by
  have still {stage : Stage E.Context σ} (away : stage.atEngine = false) :
      ({ th with stage } : Thread E.Context σ).Scripted := by
    refine ⟨?_, ?_, scripted.waiting⟩
    · rintro u pending rfl
      cases away
    · rintro w a rfl
      cases away
  cases act with
  | @resume body r call calls c stage result calling engine =>
    have waiting := scripted.waiting
    rw [calling] at waiting
    obtain ⟨target, args, c', ofScript⟩ := waiting call (List.mem_cons_self ..)
    refine ⟨nofun, fun w a h => ?_, fun call' h => waiting call' (List.mem_cons_of_mem _ h)⟩
    obtain ⟨rfl, h⟩ := Stage.work.inj h
    obtain rfl := eq_of_heq h
    exact ofScript.resume _ _
  | @check u x c stage entry engine =>
    refine ⟨fun u' pending h c => ?_, nofun, scripted.waiting⟩
    obtain ⟨rfl, rfl⟩ := Stage.enter.inj h
    obtain ⟨e, op, back⟩ := u
    cases op with
    | evaluate source name => exact ⟨rfl, _, rfl⟩
    | bind | collect => trivial
  | @enter u pending x direct x' c stage entry entrance engine =>
    refine ⟨nofun, fun w a h => ?_, scripted.waiting⟩
    obtain ⟨rfl, h⟩ := Stage.work.inj h
    obtain rfl := eq_of_heq h
    exact scripted.entering u pending stage c
  | @workRefused w target args c resume fault stage gate =>
    refine ⟨nofun, fun w' a h => ?_, scripted.waiting⟩
    obtain ⟨rfl, h⟩ := Stage.work.inj h
    obtain rfl := eq_of_heq h
    exact (scripted.working w _ stage).resume _ _
  | @workCall w target args c resume i stage gate =>
    refine ⟨nofun, nofun, fun call h => ?_⟩
    rcases List.mem_cons.1 h with rfl | h
    · exact ⟨target, args, c, scripted.working w _ stage⟩
    · exact scripted.waiting call h
  | _ => exact still rfl

/-- Every evaluation that waits for the host is one of these. -/
theorem Run.exists_floor {th : Thread E.Context σ}
    (run : Run host (start E memory programs) past p) (at_t : p.threads[t.index]? = some th)
    {call : HostCall E.Context σ} (hcall : call ∈ th.calls) {source name : String}
    (evaluates : call.work.underway.operation = .evaluate source name) :
    ∃ f : Floor E.Context σ, call = f.frame := by
  have scripted : th.Scripted :=
    run.keeps_thread (fun _ => ⟨nofun, nofun, nofun⟩) (fun first act => act.scripted first) at_t
  obtain ⟨target, args, c, ofScript⟩ := scripted.waiting call hcall
  obtain ⟨⟨⟨e, op, back⟩, direct, pending⟩, i, resume⟩ := call
  obtain rfl : op = .evaluate source name := evaluates
  obtain ⟨rfl, script, rfl⟩ := ofScript.exists_resume
  exact ⟨⟨⟨name, i⟩, e, source, back, direct, script⟩, rfl⟩

/-- The innermost evaluation comes to its end. -/
theorem Stands.unwinds {good : E.Context → Prop} {e' : EntryId} {c : E.Context}
    (stands : Stands host p t f.entry x ⟨.host body, f.frame :: below, e' :: active⟩ s q)
    (fails : body.FailsWith text) (uncaught : Uncaught good f.resume) (engine : x.engine = some c)
    (first : good c) (unclosed : x.closing = false) :
    ∃ line c' q', good c' ∧ Stands host p t f.entry (x.exited f.direct c')
      ⟨.host (f.back (.error (.script (f.fault text line)))), below, active⟩ s q' := by
  obtain ⟨result, ended, reply⟩ := fails.exists_result f.call
  let u : Underway σ := ⟨f.entry, .evaluate f.source f.name, f.back⟩
  obtain ⟨q₁, resuming⟩ := Stands.resumes (u := u) stands ended engine
  obtain ⟨stack, c', thrown, last⟩ := uncaught (.host f.call.method text) c rfl first
  rw [reply, thrown] at resuming
  obtain ⟨q₂, back⟩ := resuming.concludes (.inl rfl) unclosed
  exact ⟨stack.bind (Backtrace.lineIn f.name), c', q₂, last, back⟩

/-! ## From the innermost evaluation to the outermost -/

/-- The interpreter is not closed, and the script leaves an error uncaught. -/
structure Floor.Ready (p : Process E σ) (sound : EntryId → E.Context → Prop)
    (f : Floor E.Context σ) : Prop where
  live : ∃ h, p.directory.get? h = some f.entry
  intact : ∀ x c, p.entry? f.entry = some x → x.engine = some c → sound f.entry c
  uncaught : Uncaught (sound f.entry) f.resume

/-- With these evaluations over all is as it was, but for what their scripts have done to
engines. -/
def Unwound (sound : EntryId → E.Context → Prop) (floors : List (Floor E.Context σ)) :
    Process E σ → Process E σ → Prop :=
  Worked sound fun e x y => y.board = x.board ∧ y.closing = x.closing ∧
    y.releases = x.releases ∧ y.depth + floors.countP (·.entry = e) = x.depth

variable {sound : EntryId → E.Context → Prop}

theorem Unwound.trans {floors floors' : List (Floor E.Context σ)}
    (first : Unwound sound floors p q) (second : Unwound sound floors' q r) :
    Unwound sound (floors' ++ floors) p r := by
  refine Worked.trans first second fun ⟨board, closing, releases, depth⟩ changed => ?_
  obtain ⟨board', closing', releases', depth'⟩ := changed
  refine ⟨board'.trans board, closing'.trans closing, releases'.trans releases, ?_⟩
  rw [List.countP_append]
  omega

theorem Unwound.of_stands {th : Thread E.Context σ} (stands : Stands host p t e x th s q)
    (hx : p.entry? e = some x) : Unwound sound [] p q :=
  stands.worked hx ⟨rfl, rfl, rfl, rfl⟩ (Or.inl rfl) fun _ _ _ => ⟨rfl, rfl, rfl, rfl⟩

theorem Floor.Ready.of_unwound {floors : List (Floor E.Context σ)} (ready : f.Ready p sound)
    (run : Run host (start E memory programs) past p) (unwound : Unwound sound floors p q) :
    f.Ready q sound := by
  refine ⟨unwound.directory ▸ ready.live, fun y c hy engine => ?_, ready.uncaught⟩
  obtain ⟨h, found⟩ := ready.live
  obtain ⟨x, -, hx, -⟩ := run.exists_entry_of_found found
  obtain ⟨z, hz, -, same⟩ := unwound.entries _ x hx
  obtain rfl := Option.some.inj (hz.symm.trans hy)
  rcases same with same | ⟨-, c', same, good⟩
  · exact ready.intact x c hx (same.symm.trans engine)
  · rwa [← Option.some.inj (same.symm.trans engine)]

/-- The innermost evaluation comes to its end, and all is as it was around it. -/
theorem Run.unwinds_last (run : Run host (start E memory programs) past p)
    (at_t : p.threads[t.index]? = some ⟨.host body, f.frame :: below, active⟩)
    (fails : body.FailsWith text) (ready : f.Ready p sound) :
    ∃ q line active', Alone host t p q ∧ Unwound sound [f] p q ∧ q.threads[t.index]?
      = some ⟨.host (f.back (.error (.script (f.fault text line)))), below, active'⟩ := by
  obtain ⟨h, found⟩ := ready.live
  obtain ⟨x, c, hx, engine, unclosed⟩ := run.exists_entry_of_found found
  obtain ⟨e', active', rfl⟩ : ∃ e' active', active = e' :: active' :=
    ⟨_, _, (run.nested at_t).active⟩
  have inside : 0 < x.depth := by
    have := ((run.kept f.entry).entry hx).depth
    have := le_total (Thread.inside f.entry) at_t
    have : 0 < Thread.inside f.entry ⟨.host body, f.frame :: below, e' :: active'⟩ :=
      Thread.inside_of_works (List.mem_cons_self ..)
    omega
  obtain ⟨line, c', q, good, back⟩ :=
    (stands_self hx at_t).unwinds fails ready.uncaught engine (ready.intact x c hx engine)
      unclosed
  refine ⟨q, line, active', back.alone, ?_, back.at_t⟩
  refine back.worked hx ⟨rfl, ?_, rfl, ?_⟩ (Or.inr ⟨by rw [engine]; rfl, c', rfl, good⟩)
    fun e he y => ⟨rfl, rfl, rfl, by simp [Ne.symm he]⟩
  · simp [Entry.exited, Entry.letGo, Entry.dismiss, unclosed]
  · simp only [Entry.exited, Entry.letGo, Entry.dismiss, List.countP_singleton, decide_true,
      if_true]
    omega

/-- Evaluations that are under way one within another, on whichever interpreters, come to their end
when the innermost method fails. -/
theorem Run.unwinds (run : Run host (start E memory programs) past p)
    (at_t : p.threads[t.index]?
      = some ⟨.host body, (k :: rest).reverse.map Floor.frame ++ below, active⟩)
    (fails : body.FailsWith text) (relays : ∀ f ∈ rest, f.Relays)
    (ready : ∀ f ∈ k :: rest, f.Ready p sound) :
    ∃ q fault active', Alone host t p q ∧ Unwound sound (k :: rest) p q ∧
      Reports text k.toSite (rest.map Floor.toSite) fault ∧
      q.threads[t.index]? = some ⟨.host (k.back (.error (.script fault))), below, active'⟩ := by
  induction rest using List.reverseRecOn generalizing p past body text active with
  | nil =>
    obtain ⟨q, line, active', alone, unwound, at_q⟩ :=
      run.unwinds_last at_t fails (ready k (List.mem_singleton_self k))
    exact ⟨q, _, active', alone, unwound, .last, at_q⟩
  | append_singleton rest f ih =>
    rw [← List.cons_append] at at_t ready
    rw [List.reverse_append] at at_t
    have last := ready f (List.mem_append_right _ (List.mem_singleton_self f))
    obtain ⟨q₁, line, active₁, alone, unwound, at_t₁⟩ := run.unwinds_last at_t fails last
    -- the method that has evaluated fails in turn
    obtain ⟨h, found⟩ := last.live
    obtain ⟨x, c, hx, -⟩ := run.exists_entry_of_found found
    obtain ⟨y, hy, -⟩ := unwound.entries _ x hx
    obtain ⟨s', fails'⟩ := relays f (by simp) (.script (f.fault text line)) q₁.memory
    obtain ⟨q₂, failing⟩ := (stands_self hy at_t₁).leads fails'
    have unwound := unwound.trans (.of_stands failing hy)
    obtain ⟨past', onwards, -⟩ := alone.trans failing.alone
    obtain ⟨q, fault, active', alone', rest', reports, at_q⟩ := ih (run.trans onwards) failing.at_t
      (.failed _) (fun g hg => relays g (List.mem_append_left _ hg))
      fun g hg => (ready g (List.mem_append_left _ hg)).of_unwound run unwound
    refine ⟨q, fault, active', (alone.trans failing.alone).trans alone', unwound.trans rest', ?_,
      at_q⟩
    rw [List.map_append]
    exact reports.concat

end Process

end Drawbridge
