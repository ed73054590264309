import Drawbridge.CommandLine.Arguments
import Drawbridge.FileTree
import Drawbridge.HostObject.Basic
import Drawbridge.Process.Step
import Drawbridge.Script.Engine

/-!
# A run of the command

The command evaluates one source in an interpreter of its own, in which a `host` object is bound.
`run` is the whole of it: what is printed and the exit code.
-/

namespace Drawbridge.CommandLine

/-! ## The host object -/

/-- What the host object does for scripts. -/
inductive Service where
  | log
  | version
  | timeZoneOffset
  deriving DecidableEq, Repr

/-- The version that the command tells. -/
def versionText : String := "0.1.0"

/-- What the host object offers to scripts. -/
def hostContract : Contract :=
  { name := "Host"
    isClass := false
    supertypes := []
    methods := [
      ⟨"log", [.string], .void⟩,
      ⟨"version", [], .string⟩,
      ⟨"timeZoneOffset", [.double], .int32⟩] }

/-- The host object, whose methods are the services under their names. -/
def hostObject : HostObject Service :=
  .build "Host" [] [("log", .log), ("version", .version), ("timeZoneOffset", .timeZoneOffset)]

/-- What an evaluation leaves: the lines logged, the latest first, and its result. -/
structure Console where
  lines : List String
  result : Except BridgeFault String

instance : Inhabited Console := ⟨⟨[], .error .closed⟩⟩

/-- The number of the first argument. -/
def givenDouble (args : List Datum) : Double := (args.head?.bind Datum.double?).getD .zero

/-- The text of the first argument. -/
def givenText (args : List Datum) : String := (args.head?.bind Datum.text?).getD ""

/-- Does a service. A line that is logged goes to the console; what is no number, or no text, counts
as the default of its kind. -/
def Service.run (zone : Time.Zone) (args : List Datum) : Service → Program Console MethodResult
  | log => do
    Program.modify fun c => { c with lines := givenText args :: c.lines }
    return .ok .void
  | version => return .ok (.text versionText)
  | timeZoneOffset => return .ok (.int (Int32.ofInt (zone.offsetAtMillis (givenDouble args))))

/-- The one host object there is. -/
def hostId : ObjectId := ⟨0⟩

/-- The host of a run, with the one object. -/
def host (zone : Time.Zone) : Host Console where
  facets _ _ := hostObject.facets
  invoke _ method args :=
    match hostObject.body? method with
    | some service => service.run zone args
    | none => return .error (HostObject.lackingMessage method)

/-! ## Evaluation -/

/-- Binds the host object and evaluates a source. -/
def evaluation (settings : Settings) (source file : String) : Program Console MethodResult := do
  let result ← Program.withInterpreter settings fun js => do
    match ← Program.bindObject js "host" hostContract hostId with
    | .error fault => return .error fault
    | .ok () => Program.evaluate js source (some file)
  Program.modify fun c => { c with result := result.bind id }
  return .ok .void

/-- The console after the evaluation of a source in an engine `E`, within `n` steps of its
process. -/
def evaluate (E : Engine) (zone : Time.Zone) (n : Nat) (settings : Settings)
    (source file : String) : Console :=
  let process := Process.start E (default : Console) [evaluation settings source file]
  (process.runThread (host zone) ⟨0⟩ n).memory

/-! ## Inputs -/

/-- Why there is no result. -/
inductive RunFault where
  | settings (fault : Settings.Fault)
  | unreadable (path : String) (fault : ReadFault)
  | noSource
  | bridge (fault : BridgeFault)
  deriving DecidableEq, Repr

namespace RunFault

/-- What the user is told first. -/
def message : RunFault → String
  | settings fault => fault.message
  | unreadable path _ => "failed to read " ++ path
  | noSource => "nothing to evaluate: pass a script path or -e <source>"
  | bridge fault => fault.message

/-- What is behind it, if that is a fault of its own. -/
def cause? : RunFault → Option String
  | settings (.unreadable _ reason) => some reason
  | settings (.malformed fault) => some fault.message
  | unreadable _ fault => some fault.message
  | noSource | bridge _ => none

/-- The message and the cause. -/
def report (f : RunFault) : String :=
  "Error: " ++ f.message ++
    (match f.cause? with
      | some cause => "\n\nCaused by:\n    " ++ "\n    ".intercalate (cause.splitOn "\n")
      | none => "") ++ "\n"

end RunFault

/-- What reads files. -/
abbrev FileReader := String → Except ReadFault String

/-- The settings of a run. -/
def settingsOf (read : FileReader) (a : Arguments) : Except RunFault Settings :=
  match a.config with
  | none => .ok default
  | some path => ((Settings.load path ((read path).mapError ReadFault.message))).mapError .settings

/-- The source of a run and the name it is evaluated under. -/
def sourceOf (read : FileReader) (settings : Settings) (a : Arguments) :
    Except RunFault (String × String) :=
  match a.source, a.script with
  | some source, _ => .ok (source, a.fileName.getD settings.defaultFileName)
  | none, some path =>
    match read path with
    | .ok source => .ok (source, a.fileName.getD path)
    | .error fault => .error (.unreadable path fault)
  | none, none => .error .noSource

/-! ## The run -/

/-- What a run leaves: its exit code and what it has printed. -/
structure Exit where
  code : UInt32
  stdout : String
  stderr : String
  deriving DecidableEq, Repr

/-- Each line with a line feed. -/
def unlines (lines : List String) : String := String.join (lines.map (· ++ "\n"))

/-- How the command is called. -/
def usageText : String := "Usage: tether [OPTIONS] [SCRIPT]\n"

/-- What `--help` prints. -/
def helpText : String :=
  "Evaluate JavaScript with host capabilities\n\n" ++ usageText ++
  "\nArguments:\n  [SCRIPT]  Script file to evaluate\n" ++
  "\nOptions:\n" ++ unlines [
    "  -c, --config <CONFIG>        Engine settings (JSON)",
    "      --file-name <FILE_NAME>  File name reported in script errors",
    "  -e, --eval <SOURCE>          Evaluate this source instead of a file",
    "  -h, --help                   Print help",
    "  -V, --version                Print version"]

/-- Evaluates as asked. What was logged is printed whatever comes of it. -/
def perform (E : Engine) (read : FileReader) (zone : Time.Zone) (n : Nat) (a : Arguments) : Exit :=
  let prepared := do
    let settings ← settingsOf read a
    let (source, file) ← sourceOf read settings a
    return (settings, source, file)
  match prepared with
  | .error fault => ⟨1, "", fault.report⟩
  | .ok (settings, source, file) =>
    let console := evaluate E zone n settings source file
    let logged := unlines console.lines.reverse
    match console.result with
    | .ok text => ⟨0, logged ++ text ++ "\n", ""⟩
    | .error fault => ⟨1, logged, (RunFault.bridge fault).report⟩

/-- A run with a list of arguments. What it evaluates are scripts. -/
def run (read : FileReader) (zone : Time.Zone) (n : Nat) (args : List String) : Exit :=
  match Demand.read args with
  | .error fault =>
    ⟨2, "", "error: " ++ fault.message ++ "\n\n" ++ usageText
      ++ "\nFor more information, try '--help'.\n"⟩
  | .ok .version => ⟨0, "tether_runtime " ++ versionText ++ "\n", ""⟩
  | .ok .help => ⟨0, helpText, ""⟩
  | .ok (.evaluation a) => perform (Script.engine zone) read zone n a

end Drawbridge.CommandLine
