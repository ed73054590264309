import Drawbridge.Engine
import Drawbridge.Script.Parser
import Drawbridge.Script.Reach
import Drawbridge.Script.Realm

/-!
# The script engine

Sources run on a machine. What a source declares outside functions stays for the sources after it:
`var` and functions as properties of the global object, `let` and `const` as vars.
-/

namespace Drawbridge.Script

namespace Exec

variable {α : Type}

/-! ## Declarations of a source -/

/-- Refuses a name that is declared already. -/
def redeclared {α : Type} (x : Utf16) : Exec α :=
  raise .syntaxError ("redeclaration of '" ++ shown x ++ "'")

/-- A name that `let` or `const` declare must be new. -/
def checkLexical (x : Utf16) : Exec Unit := do
  let m ← machine
  let restricted := match (m.object Intrinsic.global.ref).find? (.text x) with
    | some p => !p.configurable
    | none => false
  if restricted || (m.variableFrom x 1 (some globalScope)).isSome then redeclared x

/-- A name that `var` or a function declares must not be one of a `let` or `const`. -/
def checkVar (isFunction : Bool) (x : Utf16) : Exec Unit := do
  let m ← machine
  let o := m.object Intrinsic.global.ref
  let cannot : Exec Unit := throwType ("cannot define variable '" ++ shown x ++ "'")
  match o.find? (.text x) with
  | none => if !o.extensible then cannot
  | some p =>
    let listed := match p.content with
      | .data _ writable => writable && p.enumerable
      | .accessor .. => false
    if isFunction && !p.configurable && !listed then cannot
  if (m.variableFrom x 1 (some globalScope)).isSome then redeclared x

/-- Declares the names of a source. -/
def declareAll (env : Surroundings) (body : List Stmt) : Exec Unit := do
  let functions := functionsIn body
  let names := (varNamesOf body).eraseDups.filter fun x => !functions.any (·.name == x)
  (lexicalNames body).forM fun (x, _) => checkLexical x
  names.forM (checkVar false)
  functions.forM fun code => checkVar true code.name
  modify (·.declare globalScope (lexicalVariables body))
  let global := Intrinsic.global.ref
  names.forM fun x => do
    if (← read fun m => ((m.object global).find? (.text x)).isNone) then
      define global (.text x) ⟨.data .undefined true, true, false⟩
  functions.forM fun code => do
    let f ← closure env code
    match ← read fun m => (m.object global).find? (.text code.name) with
    | some p =>
      if p.configurable then define global (.text code.name) ⟨.data f true, true, false⟩
      else put globalObject (.text code.name) f true
    | none => define global (.text code.name) ⟨.data f true, true, false⟩

/-! ## Sources -/

/-- Throws the fault of a source that is none. -/
def throwSyntax (file : String) (fault : SyntaxFault) : Exec α := do
  let r ← update fun m => m.newError 0 .syntaxError (.ofString fault.message)
  let frame : Frame := ⟨none, some ⟨file, fault.mark.line, fault.mark.column⟩⟩
  let frames ← read (·.backtrace 0)
  modify fun m => m.modifyObject r fun o =>
    o.insert "stack" (Machine.stackProperty (frame :: frames))
  throwValue (.object r)

/-- Runs a source; its value is that of the last expression statement. -/
def runSource (source : Source) : Exec Value :=
  let env : Surroundings := ⟨none, none, globalObject, source.strict, source.file⟩
  running ⟨none, some source.file, ⟨1, 1⟩, none, none, .undefined⟩ do
    stacking do
      declareAll env source.body
      discard (executeAll env source.body)
      read (·.completion)

/-- Runs the source that a text writes, in strict mode from the start perhaps. -/
def run (strict : Bool) (text file : String) : Exec Value := do
  match parse strict file text.toList with
  | .error fault => throwSyntax file fault
  | .ok source => runSource source

/-! ## Text for the host -/

/-- What becomes of a value that is to be text. -/
inductive Rendering where
  | text (s : String)
  /-- the conversion threw -/
  | thrown (v : Value)
  /-- a surrogate stands alone at an offset in bytes -/
  | broken (offset : Nat)

/-- A value as text for the host, by the conversions of scripts. -/
def render (v : Value) : Exec Rendering := do
  match ← attempt (toText v) with
  | .ok s =>
    match s.decode with
    | .ok s => return .text s
    | .error offset => return .broken offset
  | .error (.thrown e) => return .thrown e
  | .error s => stop s

/-- What is said of a text that is none. -/
def brokenMessage (offset : Nat) : String :=
  "Conversion from string failed: invalid utf-8 sequence of 1 bytes from index " ++ toString offset

/-- A value as text, if it has one. -/
def rendered? (v : Value) : Exec (Option String) := do
  match ← render v with
  | .text s => return some s
  | _ => return none

/-- The backtrace that a thrown error carries. -/
def stackOf (v : Value) : Exec (Option String) := do
  if !(← read (·.isError v)) then return none
  else
    match ← attempt (get v "stack") with
    | .ok .undefined | .ok .null => return none
    | .ok s => rendered? s
    | .error (.thrown _) => return none
    | .error s => stop s

/-- The failure that a thrown value is. -/
def failure (v : Value) : Exec Failure := do
  let stack ← stackOf v
  return .thrown (← rendered? v) stack

/-- The failure of a script that came to a stop. -/
def stopFailure : Stop → Exec Failure
  | .thrown v => failure v
  | .endless => pure (.thrown (some "InternalError: interrupted") none)

/-- The first byte of a text that is zero. -/
def zeroByte? (s : String) : Option Nat :=
  let before := s.toList.takeWhile (· ≠ '\x00')
  if before.length < s.length then some (String.ofList before).utf8ByteSize else none

/-- What is said of a text with a zero byte. -/
def zeroMessage (position : Nat) : String :=
  "String contained internal null bytes: nul byte found in provided data at position: "
    ++ toString position

/-- Runs a source and gives its value as text. -/
def evaluateText (text file : String) : Exec (Except Failure String) := do
  match (zeroByte? file).orElse fun _ => zeroByte? text with
  | some position => return .error (.refused (zeroMessage position))
  | none =>
    match ← attempt (run false text file) with
    | .error s => return .error (← stopFailure s)
    | .ok v =>
      match ← render v with
      | .text s => return .ok s
      | .broken offset => return .error (.refused (brokenMessage offset))
      | .thrown e => return .error (← failure e)

/-! ## Proxies -/

/-- The function by which scripts call a method of a binding. -/
def proxyFunction (b : Binding) (index : Nat) (s : Signature) : Exec Value :=
  newObject
    { proto := some Intrinsic.functionProto.ref
      extensible := true
      properties := #[
        (Key.ofString "length", ⟨.data (.int 0) false, false, true⟩),
        (Key.ofString "name", ⟨.data (.text (.ofString s.name)) false, false, true⟩)]
      nature := .proxy ⟨b, index⟩ }

/-- Makes the proxy of a binding a global, by assignments as scripts make them. -/
def installProxy (b : Binding) : Exec Unit := do
  let proxy ← newPlain
  b.roster.methods.zipIdx.forM fun (s, index) => do
    put proxy (.ofString s.name) (← proxyFunction b index s) true
  put globalObject (.ofString b.name) proxy true

/-- Counts as working until it has come to a result. -/
def work {α : Type} (x : Exec α) (m : Machine) : Activity Machine (Except Stop α) :=
  (x.start { m with working := m.working + 1 }).bind fun r m =>
    .done r { m with working := m.working - 1 }

end Exec

/-- What an activity comes to, a stop being a failure. -/
def settled {α : Type} (r : Except Stop (Except Failure α)) : Except Failure α :=
  match r with
  | .ok r => r
  | .error _ => .error (.thrown none none)

/-- The engine for scripts, in a time zone. -/
def engine (zone : Time.Zone) : Engine where
  Context := Machine
  create? := Machine.ofSettings? zone
  evaluate source file m := (Exec.work (Exec.evaluateText source file) m).map settled
  install b m :=
    (Exec.work (do
      match ← Exec.attempt (Exec.installProxy b) with
      | .ok () => return .ok ()
      | .error s => return .error (← Exec.stopFailure s)) m).map settled
  collect := Machine.collect
  proxies := Machine.proxies

end Drawbridge.Script
