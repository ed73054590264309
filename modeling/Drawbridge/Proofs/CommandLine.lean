import Drawbridge.CommandLine.Run
import Drawbridge.Proofs.HostObject
import Drawbridge.Proofs.Process.Direct
import Drawbridge.Proofs.Process.Scopes
import Drawbridge.Proofs.Script.Realm

/-!
# What a run of the command comes to

`Pipeline` says step by step what a run is to do, and what it is to print: the settings are loaded,
then the source is picked, then an engine of its own takes the host object in and evaluates it.  A
run does this and nothing else, whatever the engine (`perform_eq_iff_pipeline`): it makes a process
for the evaluation, whose one thread gets through on its own (`evaluate_unmade`, `evaluate_unbound`,
`evaluate_made`).  With the engine for scripts the host object is always taken in
(`run_eq_iff_pipeline`).
-/

namespace Drawbridge.CommandLine

/-! ## The host object, bound -/

/-- The binding of the host object, the first one made. -/
def hostBinding : Binding := ⟨1, "host", ⟨"Host", hostContract.methods⟩, hostId⟩

/-- The switchboard while the engine takes the host object in: nothing is published. -/
def bareBoard : Switchboard := ⟨1, []⟩

/-- The switchboard with this binding and no other. -/
def hostBoard : Switchboard := ⟨1, [hostBinding]⟩

/-- What comes of a call of the host object. -/
def outcome (zone : Time.Zone) (i : Invocation) : Outcome :=
  if i.signature.name = "log" then .returned .void
  else if i.signature.name = "version" then .returned (.text versionText)
  else if i.signature.name = "timeZoneOffset" then
    .returned (.int (Int32.ofInt (zone.offsetAtMillis (givenDouble i.args))))
  else .failed (HostObject.lackingMessage i.signature.name)

/-- A call is carried out, after those before it. -/
def attend (zone : Time.Zone) (i : Invocation) (calls : List Invocation) :
    Outcome × List Invocation :=
  (outcome zone i, calls ++ [i])

/-- The argument of each call of `log`, in order. It is a text (`Evaluates.args_of_log`). -/
def logged (calls : List Invocation) : List String :=
  (calls.filter (·.signature.name = "log")).map (givenText ·.args)

/-- What an engine has called the host for has passed the gate. -/
theorem passes_of_run {C α : Type} {zone : Time.Zone} {board : Switchboard} {a : Activity C α}
    {calls calls' : List Invocation} {r : α} {c : C}
    (ran : a.run (board.dispatch (attend zone)) calls = (r, c, calls')) {i : Invocation}
    (called : i ∈ calls') : i ∈ calls ∨ ∃ target args, board.route target args = .ok i := by
  induction a generalizing calls with
  | done => exact Or.inl ((Prod.mk.inj (Prod.mk.inj ran).2).2 ▸ called)
  | call target args c₀ resume ih =>
    rw [Activity.run, Switchboard.dispatch] at ran
    cases gate : board.route target args with
    | error fault =>
      simp only [gate] at ran
      exact ih _ _ ran
    | ok j =>
      simp only [gate] at ran
      rcases ih _ _ ran with earlier | passes
      · rcases List.mem_append.1 earlier with earlier | last
        · exact Or.inl earlier
        · exact Or.inr ⟨target, args, List.mem_singleton.1 last ▸ gate⟩
      · exact Or.inr passes

/-- A call of `log` that passes the gate has one argument, a text. -/
theorem args_of_route {target : CallTarget} {args : List ScriptValue} {i : Invocation}
    (passes : hostBoard.route target args = .ok i) (bound : i.binding = hostBinding)
    (log : i.signature.name = "log") : i.args = [.text (givenText i.args)] := by
  have admits := Switchboard.route_eq_ok_iff.1 passes
  have declared : i.signature ∈ hostContract.methods := by
    have method := admits.method
    rw [← admits.binding, bound] at method
    exact List.mem_of_getElem? method
  have params : i.signature.params = [.string] := by
    have others : ∀ s ∈ hostContract.methods, s.name = "log" → s.params = [.string] := by decide
    exact others _ declared log
  have kinds := admits.kinds.1
  rw [params, List.map_eq_singleton_iff] at kinds
  obtain ⟨d, one, kind⟩ := kinds
  rw [one]
  cases d with
  | text s => rfl
  | _ => cases kind

theorem logged_concat (calls : List Invocation) (i : Invocation) :
    logged (calls ++ [i])
      = logged calls ++ if i.signature.name = "log" then [givenText i.args] else [] := by
  unfold logged
  by_cases h : i.signature.name = "log" <;> simp [List.filter_append, h]

/-- The console as these calls leave it. -/
def consoleAfter (calls : List Invocation) : Console := ⟨(logged calls).reverse, .error .closed⟩

theorem body?_hostObject (name : String) :
    hostObject.body? name =
      if name = "log" then some .log
      else if name = "version" then some .version
      else if name = "timeZoneOffset" then some .timeZoneOffset
      else none := by
  have build : hostObject = (((HostObject.ofType "Host").method "log" .log).method
    "version" .version).method "timeZoneOffset" .timeZoneOffset := rfl
  rw [build, HostObject.body?_method, HostObject.body?_method, HostObject.body?_method]
  by_cases log : name = "log"
  · subst log
    decide
  by_cases version : name = "version"
  · subst version
    decide
  rw [if_neg log, if_neg version, if_neg (Ne.symm log), if_neg (Ne.symm version)]
  simp only [eq_comm (a := name)]
  rfl

theorem consoleAfter_log {calls : List Invocation} {i : Invocation}
    (log : i.signature.name = "log") :
    consoleAfter (calls ++ [i])
      = { consoleAfter calls with lines := givenText i.args :: (consoleAfter calls).lines } := by
  simp [consoleAfter, logged_concat, log]

theorem consoleAfter_other {calls : List Invocation} {i : Invocation}
    (other : i.signature.name ≠ "log") : consoleAfter (calls ++ [i]) = consoleAfter calls := by
  simp [consoleAfter, logged_concat, other]

/-- The host object does what `attend` says. -/
theorem plays_host (zone : Time.Zone) : (host zone).Plays consoleAfter (attend zone) := by
  intro i calls
  unfold host attend outcome
  simp only [body?_hostObject]
  split_ifs with log
  · rw [consoleAfter_log log]
    exact ⟨_, _, .read (.write .refl), rfl, rfl⟩
  all_goals
    rw [consoleAfter_other log]
    exact ⟨_, _, .refl, rfl, rfl⟩

/-! ## An evaluation -/

/-- An engine of its own is made for the settings and comes to this as it takes the host object in.
Nothing is published meanwhile, so that all it calls the host for is refused. -/
def Installs (E : Engine) (zone : Time.Zone) (settings : Settings) (result : Except Failure Unit)
    (m : E.Context) : Prop :=
  ∃ fresh, E.create? settings = some fresh ∧
    (E.install hostBinding fresh).run (bareBoard.dispatch (attend zone)) [] = (result, m, [])

/-- A source is evaluated in an engine of its own, which is made for the settings and has taken the
host object in: what comes of it, and the calls of the host on the way. -/
def Evaluates (E : Engine) (zone : Time.Zone) (settings : Settings) (source file : String)
    (result : Except Failure String) (calls : List Invocation) : Prop :=
  ∃ m left, Installs E zone settings (.ok ()) m ∧
    (E.evaluate source file m).run (hostBoard.dispatch (attend zone)) [] = (result, left, calls)

/-- What is logged is what `log` was called with. -/
theorem Evaluates.args_of_log {E : Engine} {zone : Time.Zone} {settings : Settings}
    {source file : String} {result : Except Failure String} {calls : List Invocation}
    (evaluates : Evaluates E zone settings source file result calls) :
    ∀ i ∈ calls, i.binding = hostBinding → i.signature.name = "log" →
      i.args = [.text (givenText i.args)] := by
  obtain ⟨m, left, -, ran⟩ := evaluates
  intro i called bound log
  rcases passes_of_run ran called with before | ⟨target, args, passes⟩
  · cases before
  · exact args_of_route passes bound log

theorem check_host : hostContract.check hostObject.facets = .ok hostBinding.roster := by decide

section Evaluation

variable {E : Engine} {zone : Time.Zone} {settings : Settings} {source file : String}

/-- An engine that was made comes to something as it takes the host object in. -/
theorem exists_installs {fresh : E.Context} (zone : Time.Zone)
    (made : E.create? settings = some fresh) : ∃ result m, Installs E zone settings result m := by
  cases ran : (E.install hostBinding fresh).run (bareBoard.dispatch (attend zone)) [] with
  | mk result rest =>
    obtain ⟨m, calls⟩ := rest
    -- a call that had passed the gate would be of something published
    obtain rfl : calls = [] := List.eq_nil_iff_forall_not_mem.2 fun i called => by
      rcases passes_of_run ran called with before | ⟨target, args, passes⟩
      · cases before
      · cases (Switchboard.route_of_unpublished rfl).symm.trans passes
    exact ⟨result, m, fresh, made, ran⟩

theorem Installs.exists_evaluates {m : E.Context} (installs : Installs E zone settings (.ok ()) m)
    (source file : String) : ∃ result calls, Evaluates E zone settings source file result calls :=
  ⟨_, _, m, _, installs, rfl⟩

/-- What is done with the result. -/
def keep (result : Except BridgeFault (Except BridgeFault String)) :
    Program Console MethodResult :=
  .read fun c => .write { c with result := result.bind id } (.done (.ok .void))

/-- What is left to do with the interpreter once there is a result. -/
def leave (js : InterpreterId) (result : Except BridgeFault String) :
    Program Console MethodResult :=
  (Program.leaving js (.ok result)).bind (Program.andThen keep)

/-- What is done with the interpreter, if there is one. -/
def serve (source file : String) :
    Except BridgeFault InterpreterId → Program Console MethodResult
  | .error fault => keep (.error fault)
  | .ok js => .ask (.use js (.bind "host" hostContract hostId)) fun reply =>
    match reply with
    | .error fault => leave js (.error fault)
    | .ok () => .ask (.use js (.evaluate source (some file))) (leave js)

theorem evaluation_eq (settings : Settings) (source file : String) :
    evaluation settings source file = .ask (.create settings) (serve source file) := by
  show (Program.withInterpreter settings _).bind keep = _
  rw [Program.bind_eq_attempt, Program.attempt_withInterpreter]
  refine congrArg (Program.ask _) (funext fun reply => ?_)
  cases reply with
  | error fault => rfl
  | ok js =>
    refine congrArg (Program.ask _) (funext fun reply => ?_)
    cases reply <;> rfl

/-- The thread of the process stays where it has come to with a result. -/
theorem evaluate_of_arrives {result : Except BridgeFault (Except BridgeFault String)} {c : Console}
    {q : Process E Console}
    (arrives : Process.Arrives (host zone)
      (.start E default [.ask (.create settings) (serve source file)]) ⟨0⟩
      ⟨.host (keep result), [], []⟩ c q) :
    ∃ k, ∀ n, k ≤ n →
      evaluate E zone n settings source file = { c with result := result.bind id } := by
  obtain ⟨q', kept⟩ := arrives.leads (.read (.write .refl))
  obtain ⟨k, rests⟩ := kept.runThread_eq rfl
  refine ⟨k, fun n hn => ?_⟩
  unfold evaluate
  rw [evaluation_eq]
  exact (congrArg Process.memory (rests n hn)).trans kept.memory

/-- Without an engine there is nothing but the fault. -/
theorem evaluate_unmade (unmade : E.create? settings = none) (zone : Time.Zone)
    (source file : String) :
    ∃ k, ∀ n, k ≤ n → evaluate E zone n settings source file = ⟨[], .error .outOfMemory⟩ := by
  obtain ⟨q, refused⟩ := Process.exists_refused (host zone) default (serve source file) unmade
  exact evaluate_of_arrives refused

/-- Where the engine fails to take the host object in there is nothing but the fault. -/
theorem evaluate_unbound {failure : Failure} {m : E.Context}
    (installs : Installs E zone settings (.error failure) m) (source file : String) :
    ∃ k, ∀ n, k ≤ n →
      evaluate E zone n settings source file = ⟨[], .error (.engine failure.message)⟩ := by
  obtain ⟨fresh, made, ran⟩ := installs
  obtain ⟨q₁, asks, live, found, hx⟩ :=
    Process.exists_created (host zone) default (serve source file) made
  obtain ⟨past₁, run₁, -⟩ := asks.alone
  have memory : q₁.memory = consoleAfter [] := asks.memory
  obtain ⟨q₂, failed⟩ := run₁.carries_failed_bind (plays_host zone) asks.at_t live found hx nofun
    rfl rfl check_host memory ran
  have same := Process.handleOf_congr failed.interpreters ⟨0⟩
  obtain ⟨q₃, left⟩ := (asks.stands failed).leaves (same ▸ live)
    (failed.directory ▸ same ▸ found) failed.entry nofun rfl
  exact evaluate_of_arrives left

/-- The process of a run comes to what the engine does on its own. -/
theorem evaluate_made {result : Except Failure String} {calls : List Invocation}
    (evaluates : Evaluates E zone settings source file result calls) :
    ∃ k, ∀ n, k ≤ n →
      evaluate E zone n settings source file
        = ⟨(logged calls).reverse, evaluated file result⟩ := by
  obtain ⟨m, left, ⟨fresh, made, installed⟩, ran⟩ := evaluates
  obtain ⟨q₁, asks, live, found, hx⟩ :=
    Process.exists_created (host zone) default (serve source file) made
  obtain ⟨past₁, run₁, -⟩ := asks.alone
  have memory : q₁.memory = consoleAfter [] := asks.memory
  obtain ⟨q₂, bound⟩ := run₁.carries_bind (plays_host zone) asks.at_t live found hx nofun rfl rfl
    check_host memory installed
  obtain ⟨past₂, run₂, -⟩ := bound.alone
  have same := Process.handleOf_congr bound.interpreters ⟨0⟩
  obtain ⟨q₃, evaluated⟩ := (run₁.trans run₂).carries_evaluate (plays_host zone) bound.at_t
    (same ▸ live) (bound.directory ▸ same ▸ found) bound.entry nofun rfl bound.memory ran
  have same' := (Process.handleOf_congr evaluated.interpreters ⟨0⟩).trans same
  obtain ⟨q₄, left⟩ := ((asks.stands bound).stands evaluated).leaves (same' ▸ live)
    (evaluated.directory ▸ bound.directory ▸ same' ▸ found) evaluated.entry nofun rfl
  exact evaluate_of_arrives left

end Evaluation

/-! ## A run -/

/-- The settings of a run: those of the file that the arguments name, or the default ones. -/
inductive Configured (read : FileReader) (a : Arguments) : Except RunFault Settings → Prop
  | default (unnamed : a.config = none) : Configured read a (.ok default)
  | loaded {path text settings} (named : a.config = some path) (content : read path = .ok text)
    (valid : Settings.read text = .ok settings) : Configured read a (.ok settings)
  | unreadable {path fault} (named : a.config = some path) (failed : read path = .error fault) :
    Configured read a (.error (.settings (.unreadable path fault.message)))
  | invalid {path text fault} (named : a.config = some path) (content : read path = .ok text)
    (malformed : Settings.read text = .error fault) :
    Configured read a (.error (.settings (.malformed fault)))

/-- The source of a run with the name of its file: what the arguments give, or the script they
name. -/
inductive Picked (read : FileReader) (settings : Settings) (a : Arguments) :
    Except RunFault (String × String) → Prop
  | inline {source} (given : a.source = some source) :
    Picked read settings a (.ok (source, a.fileName.getD settings.defaultFileName))
  | script {path source} (notGiven : a.source = none) (named : a.script = some path)
    (content : read path = .ok source) : Picked read settings a (.ok (source, a.fileName.getD path))
  | unreadable {path fault} (notGiven : a.source = none) (named : a.script = some path)
    (failed : read path = .error fault) : Picked read settings a (.error (.unreadable path fault))
  | nothing (notGiven : a.source = none) (unnamed : a.script = none) :
    Picked read settings a (.error .noSource)

/-- Where a source has failed, as it is told. -/
def place (file : String) (failure : Failure) : String :=
  match (failure.toFault file).line with
  | some line => " (" ++ file ++ ":" ++ toString line ++ ")"
  | none => " (" ++ file ++ ")"

/-- What a run with an engine is to come to, step by step. -/
inductive Pipeline (E : Engine) (read : FileReader) (zone : Time.Zone) (a : Arguments) :
    Exit → Prop
  | unconfigured {fault} (configured : Configured read a (.error fault)) :
    Pipeline E read zone a ⟨1, "", fault.report⟩
  | unsourced {settings fault} (configured : Configured read a (.ok settings))
    (picked : Picked read settings a (.error fault)) :
    Pipeline E read zone a ⟨1, "", fault.report⟩
  | unmade {settings source file} (configured : Configured read a (.ok settings))
    (picked : Picked read settings a (.ok (source, file))) (unmade : E.create? settings = none) :
    Pipeline E read zone a ⟨1, "", "Error: cannot create interpreter instance: out of memory\n"⟩
  | unbound {settings source file failure m} (configured : Configured read a (.ok settings))
    (picked : Picked read settings a (.ok (source, file)))
    (installs : Installs E zone settings (.error failure) m) :
    Pipeline E read zone a ⟨1, "", "Error: engine failure: " ++ failure.message ++ "\n"⟩
  | failed {settings source file failure calls} (configured : Configured read a (.ok settings))
    (picked : Picked read settings a (.ok (source, file)))
    (evaluates : Evaluates E zone settings source file (.error failure) calls) :
    Pipeline E read zone a
      ⟨1, unlines (logged calls), "Error: " ++ failure.message ++ place file failure ++ "\n"⟩
  | succeeded {settings source file text calls} (configured : Configured read a (.ok settings))
    (picked : Picked read settings a (.ok (source, file)))
    (evaluates : Evaluates E zone settings source file (.ok text) calls) :
    Pipeline E read zone a ⟨0, unlines (logged calls) ++ text ++ "\n", ""⟩

section Run

variable {E : Engine} {read : FileReader} {zone : Time.Zone} {a : Arguments} {settings : Settings}

theorem Configured.settingsOf_eq {result : Except RunFault Settings}
    (configured : Configured read a result) : settingsOf read a = result := by
  unfold settingsOf
  cases configured with
  | default unnamed => simp only [unnamed]
  | loaded named content valid => simp [named, content, Settings.load, valid, Except.mapError]
  | unreadable named failed => simp [named, failed, Settings.load, Except.mapError]
  | invalid named content malformed =>
    simp [named, content, Settings.load, malformed, Except.mapError]

theorem exists_configured (read : FileReader) (a : Arguments) :
    ∃ result, Configured read a result := by
  cases named : a.config with
  | none => exact ⟨_, .default named⟩
  | some path =>
    cases content : read path with
    | error fault => exact ⟨_, .unreadable named content⟩
    | ok text =>
      cases valid : Settings.read text with
      | error fault => exact ⟨_, .invalid named content valid⟩
      | ok settings => exact ⟨_, .loaded named content valid⟩

theorem Picked.sourceOf_eq {result : Except RunFault (String × String)}
    (picked : Picked read settings a result) : sourceOf read settings a = result := by
  unfold sourceOf
  cases picked with
  | inline given => simp only [given]
  | script notGiven named content => simp only [notGiven, named, content]
  | unreadable notGiven named failed => simp only [notGiven, named, failed]
  | nothing notGiven unnamed => simp only [notGiven, unnamed]

theorem exists_picked (read : FileReader) (settings : Settings) (a : Arguments) :
    ∃ result, Picked read settings a result := by
  cases given : a.source with
  | some source => exact ⟨_, .inline given⟩
  | none =>
    cases named : a.script with
    | none => exact ⟨_, .nothing given named⟩
    | some path =>
      cases content : read path with
      | error fault => exact ⟨_, .unreadable given named content⟩
      | ok source => exact ⟨_, .script given named content⟩

/-- Whatever the arguments, the files and the engine are, a run is to come to something. -/
theorem exists_pipeline (E : Engine) (read : FileReader) (zone : Time.Zone) (a : Arguments) :
    ∃ exit, Pipeline E read zone a exit := by
  obtain ⟨loaded, configured⟩ := exists_configured read a
  cases loaded with
  | error fault => exact ⟨_, .unconfigured configured⟩
  | ok settings =>
    obtain ⟨source, picked⟩ := exists_picked read settings a
    cases source with
    | error fault => exact ⟨_, .unsourced configured picked⟩
    | ok source =>
      cases made : E.create? settings with
      | none => exact ⟨_, .unmade configured picked made⟩
      | some fresh =>
        obtain ⟨taken, m, installs⟩ := exists_installs zone made
        cases taken with
        | error failure => exact ⟨_, .unbound configured picked installs⟩
        | ok u =>
          obtain ⟨result, calls, evaluates⟩ := installs.exists_evaluates source.1 source.2
          cases result with
          | error failure => exact ⟨_, .failed configured picked evaluates⟩
          | ok text => exact ⟨_, .succeeded configured picked evaluates⟩

theorem report_failure (file : String) (failure : Failure) :
    (RunFault.bridge (.script (failure.toFault file))).report
      = "Error: " ++ failure.message ++ place file failure ++ "\n" := by
  have message : (failure.toFault file).message = failure.message := by cases failure <;> rfl
  have named : (failure.toFault file).file = some file := by cases failure <;> rfl
  show "Error: " ++ (failure.toFault file).describe ++ "" ++ "\n" = _
  unfold ScriptFault.describe place
  rw [message, named, String.append_empty]
  cases (failure.toFault file).line <;> simp only [String.append_assoc]

/-- What is printed of a console. -/
def Console.exit (c : Console) : Exit :=
  match c.result with
  | .ok text => ⟨0, unlines c.lines.reverse ++ text ++ "\n", ""⟩
  | .error fault => ⟨1, unlines c.lines.reverse, (RunFault.bridge fault).report⟩

theorem perform_of_unconfigured {fault : RunFault} (configured : settingsOf read a = .error fault)
    (E : Engine) (zone : Time.Zone) (n : Nat) :
    perform E read zone n a = ⟨1, "", fault.report⟩ := by
  unfold perform
  rw [configured]
  rfl

theorem perform_of_unsourced {fault : RunFault} (configured : settingsOf read a = .ok settings)
    (picked : sourceOf read settings a = .error fault) (E : Engine) (zone : Time.Zone) (n : Nat) :
    perform E read zone n a = ⟨1, "", fault.report⟩ := by
  unfold perform
  simp only [configured, picked, bind, Except.bind]

theorem perform_of_picked {source file : String} (configured : settingsOf read a = .ok settings)
    (picked : sourceOf read settings a = .ok (source, file)) (E : Engine) (zone : Time.Zone)
    (n : Nat) : perform E read zone n a = (evaluate E zone n settings source file).exit := by
  unfold perform
  simp only [configured, picked, bind, Except.bind]
  rfl

/-- A run comes to what it is to come to, with steps enough. -/
theorem Pipeline.perform_eq {exit : Exit} (pipeline : Pipeline E read zone a exit) :
    ∃ k, ∀ n, k ≤ n → perform E read zone n a = exit := by
  cases pipeline with
  | unconfigured configured =>
    exact ⟨0, fun n _ => perform_of_unconfigured configured.settingsOf_eq E zone n⟩
  | unsourced configured picked =>
    exact ⟨0, fun n _ =>
      perform_of_unsourced configured.settingsOf_eq picked.sourceOf_eq E zone n⟩
  | unmade configured picked unmade =>
    obtain ⟨k, ends⟩ := evaluate_unmade unmade zone _ _
    refine ⟨k, fun n hn => ?_⟩
    rw [perform_of_picked configured.settingsOf_eq picked.sourceOf_eq, ends n hn]
    decide
  | unbound configured picked installs =>
    obtain ⟨k, ends⟩ := evaluate_unbound installs _ _
    refine ⟨k, fun n hn => ?_⟩
    rw [perform_of_picked configured.settingsOf_eq picked.sourceOf_eq, ends n hn]
    show (⟨1, "", "Error: " ++ ("engine failure: " ++ _) ++ "" ++ "\n"⟩ : Exit) = _
    rw [String.append_empty, ← String.append_assoc]
    rfl
  | failed configured picked evaluates =>
    obtain ⟨k, ends⟩ := evaluate_made evaluates
    refine ⟨k, fun n hn => ?_⟩
    rw [perform_of_picked configured.settingsOf_eq picked.sourceOf_eq, ends n hn, ← report_failure]
    simp only [Console.exit, evaluated, List.reverse_reverse]
  | succeeded configured picked evaluates =>
    obtain ⟨k, ends⟩ := evaluate_made evaluates
    refine ⟨k, fun n hn => ?_⟩
    rw [perform_of_picked configured.settingsOf_eq picked.sourceOf_eq, ends n hn]
    simp only [Console.exit, evaluated, List.reverse_reverse]

/-- What the arguments ask for is done as `Pipeline` says, and nothing else, once the process may
take steps enough. -/
theorem perform_eq_iff_pipeline (E : Engine) (read : FileReader) (zone : Time.Zone)
    (a : Arguments) :
    ∃ k, ∀ n, k ≤ n → ∀ exit, perform E read zone n a = exit ↔ Pipeline E read zone a exit := by
  obtain ⟨exit, pipeline⟩ := exists_pipeline E read zone a
  obtain ⟨k, ends⟩ := pipeline.perform_eq
  refine ⟨k, fun n hn other => ?_⟩
  rw [ends n hn]
  constructor
  · rintro rfl
    exact pipeline
  · intro pipeline'
    -- both come of one run that is long enough
    obtain ⟨k', ends'⟩ := pipeline'.perform_eq
    exact (ends _ (Nat.le_max_left k k')).symm.trans (ends' _ (Nat.le_max_right k k'))

end Run

/-! ## Scripts -/

section Scripts

variable {zone : Time.Zone} {settings : Settings} {a : Arguments}

theorem receives_host : (Script.Machine.fresh none 0 .utc).Receives hostBinding := by
  decide +kernel

/-- An engine for scripts that was made takes the host object in. -/
theorem exists_installed {fresh : Script.Machine}
    (made : (Script.engine zone).create? settings = some fresh) :
    ∃ m, (Script.engine zone).install hostBinding fresh = .done (.ok ()) m ∧ m.Offers hostBinding :=
  Script.install_offers zone (Script.Machine.receives_of_ofSettings? made receives_host) (by decide)

/-- A run of the command with arguments that ask for an evaluation does as `Pipeline` says and
nothing else, once its process may take steps enough.  An engine that was made always takes the host
object in, and then offers it, so that no run fails for that.  The lines on standard output are what
`log` of the host object was called with. -/
theorem run_eq_iff_pipeline {args : List String} (read : FileReader) (zone : Time.Zone)
    (parsed : Demand.read args = .ok (.evaluation a)) :
    (∃ k, ∀ n, k ≤ n → ∀ exit,
      run read zone n args = exit ↔ Pipeline (Script.engine zone) read zone a exit) ∧
    (∀ settings fresh, (Script.engine zone).create? settings = some fresh →
      ∃ m, (Script.engine zone).install hostBinding fresh = .done (.ok ()) m ∧
        m.Offers hostBinding) ∧
    ∀ settings source file result calls,
      Evaluates (Script.engine zone) zone settings source file result calls →
      ∀ i ∈ calls, i.binding = hostBinding → i.signature.name = "log" →
        i.args = [.text (givenText i.args)] := by
  refine ⟨?_, fun settings fresh made => exists_installed made,
    fun settings source file result calls evaluates => evaluates.args_of_log⟩
  have performs (n : Nat) : run read zone n args = perform (Script.engine zone) read zone n a := by
    unfold run
    rw [parsed]
  simp only [performs]
  exact perform_eq_iff_pipeline (Script.engine zone) read zone a

/-- A script that logs and then fails. -/
def faulty : String := "host.log('a'); throw new Error('no')"

/-- What comes of `faulty` in the file `x.js`. -/
def faultyFailure : Failure := .thrown (some "Error: no") (some "    at <eval> (x.js:1:25)\n")

/-- What a source comes to with an engine, if it takes the host object in, and what it logs. -/
def sampled (source file : String) (fresh : Script.Machine) :
    Option (Except Failure String × List String) :=
  match (Script.engine .utc).install hostBinding fresh with
  | .done _ m =>
    let ran := ((Script.engine .utc).evaluate source file m).run
      (hostBoard.dispatch (attend .utc)) []
    some (ran.1, logged ran.2.2)
  | .call .. => none

theorem exists_of_sampled {source file : String} {result : Except Failure String}
    {lines : List String}
    (came : ((Script.engine .utc).create? settings).bind (sampled source file)
      = some (result, lines)) :
    ∃ calls, logged calls = lines ∧
      Evaluates (Script.engine .utc) .utc settings source file result calls := by
  obtain ⟨fresh, made, came⟩ := Option.bind_eq_some_iff.1 came
  obtain ⟨m, installed, -⟩ := exists_installed made
  unfold sampled at came
  rw [installed] at came
  obtain ⟨ended, logs⟩ := Prod.mk.inj (Option.some.inj came)
  exact ⟨_, logs, m, _, ⟨fresh, made, by rw [installed]; rfl⟩, Prod.ext ended rfl⟩

/-- A line that was logged before a script fails is kept, and the error is told with its place. -/
theorem run_eq_iff_pipeline_logging :
    let args := ["--file-name", "x.js", "-e", faulty]
    let read (_ : String) : Except ReadFault String := .error .missing
    Demand.read args = .ok (.evaluation ⟨none, some "x.js", some faulty, none⟩) ∧
      ∃ k, ∀ n, k ≤ n →
        run read .utc n args = ⟨1, "a\n", "Error: Error: no (x.js:1)\n"⟩ := by
  intro args read
  have parsed : Demand.read args = .ok (.evaluation ⟨none, some "x.js", some faulty, none⟩) := by
    decide +kernel
  obtain ⟨⟨k, same⟩, -⟩ := run_eq_iff_pipeline read .utc parsed
  obtain ⟨calls, lines, evaluates⟩ : ∃ calls, logged calls = ["a"] ∧
      Evaluates (Script.engine .utc) .utc default faulty "x.js" (.error faultyFailure) calls :=
    exists_of_sampled (by decide +kernel)
  have failed : Pipeline (Script.engine .utc) read .utc ⟨none, some "x.js", some faulty, none⟩
      ⟨1, unlines (logged calls),
        "Error: " ++ faultyFailure.message ++ place "x.js" faultyFailure ++ "\n"⟩ :=
    .failed (.default rfl) (.inline rfl) evaluates
  have told : "Error: " ++ faultyFailure.message ++ place "x.js" faultyFailure ++ "\n"
      = "Error: Error: no (x.js:1)\n" := by decide +kernel
  rw [lines, told] at failed
  exact ⟨parsed, k, fun n hn => (same n hn _).2 failed⟩

end Scripts

end Drawbridge.CommandLine
