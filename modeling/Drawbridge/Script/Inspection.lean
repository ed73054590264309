import Drawbridge.Script.Engine

/-!
# Looking at values

What a value of a script looks like from outside: as the bridge sees it, and as text. The values
come from sources that run on a machine of their own.
-/

namespace Drawbridge.Script

/-- A value as text, or why it has none. -/
inductive Wording where
  | text (s : String)
  /-- the conversion threw something that reads so -/
  | thrown (s : String)
  | failed (message : String)
  deriving DecidableEq, Repr

/-- A value as the bridge and as a reader see it. -/
structure Look where
  value : ScriptValue
  text : Wording
  deriving DecidableEq, Repr

namespace Exec

/-- A value as text, or what came of the conversion. -/
def wording (v : Value) : Exec Wording := do
  match ← render v with
  | .text s => return .text s
  | .broken offset => return .failed (brokenMessage offset)
  | .thrown e => return .thrown ((← rendered? e).getD "uncaught exception")

/-- What a value looks like. -/
def look (v : Value) : Exec Look := do
  let value ← read (·.toBridge v)
  return ⟨value, ← wording v⟩

/-- What `x` throws, in words, or what its value looks like. -/
def looking (x : Exec Value) : Exec (Except Wording Look) := do
  match ← attempt x with
  | .ok v => return .ok (← look v)
  | .error (.thrown e) => return .error (← wording e)
  | .error s => stop s

/-- Calls a proxy function with the values of some sources. -/
def callWith (target : CallTarget) (sources : List String) : Exec Value := do
  let args ← sources.mapM fun source => run true source "?"
  callProxy target args

end Exec

/-- The words for a script that could not be run. -/
def Wording.stopped : Wording := .failed "uncaught exception"

/-- What a program on a fresh machine comes to, with a host that answers its calls. -/
def lookFresh {σ : Type} (host : CallTarget → List ScriptValue → σ → Answer × σ)
    (x : Exec Value) (s : σ) : Except Wording Look × σ :=
  match Machine.ofSettings? .utc default with
  | none => (.error .stopped, s)
  | some m =>
    let (r, _, s) := (Exec.work (Exec.looking x) m).run host s
    (match r with
      | .ok r => r
      | .error _ => .error .stopped, s)

/-- A host that has nothing to call. -/
def noHost (target : CallTarget) (_ : List ScriptValue) (s : Unit) : Answer × Unit :=
  (.error (.unknownGlobal target.binding.name), s)

/-- What the value of a source looks like. -/
def lookAtSource (source : String) : Except Wording Look :=
  (lookFresh noHost (Exec.run true source "?") ()).1

/-- What a value of the host looks like. -/
def lookAtDatum (d : Datum) : Except Wording Look :=
  (lookFresh noHost (pure (.ofBridge (.ofDatum d))) ()).1

end Drawbridge.Script
