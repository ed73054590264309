import Drawbridge.CommandLine.Run

/-!
# The command

Reads the files that a run needs, makes the run, prints and exits.
-/

open Drawbridge

/-- The most steps that a process may take. -/
def stepLimit : Nat := 1000000000000000

/-- The fault that an error of the system is. -/
def readFault : IO.Error → ReadFault
  | .noFileOrDirectory .. => .missing
  | .inappropriateType .. => .isDirectory
  | _ => .notDirectory

/-- The text of a file. -/
def readText (path : String) : IO (Except ReadFault String) := do
  try
    let content ← IO.FS.readBinFile path
    match String.fromUTF8? content with
    | some text => return .ok text
    | none => return .error .notUtf8
  catch e => return .error (readFault e)

/-- The files that the arguments name, with what is in them. -/
def readFiles (args : List String) : IO (List (String × Except ReadFault String)) :=
  match CommandLine.Demand.read args with
  | .ok (.evaluation a) =>
    (a.config.toList ++ a.script.toList).mapM fun path => do return (path, ← readText path)
  | _ => return []

/-- Makes the run that the arguments ask for. -/
def main (args : List String) : IO UInt32 := do
  let zone := Time.Zone.ofString ((← IO.getEnv "TZ").getD "")
  let files ← readFiles args
  let read (path : String) := (files.lookup path).getD (.error .missing)
  let exit := CommandLine.run read zone stepLimit args
  IO.print exit.stdout
  (← IO.getStderr).putStr exit.stderr
  return exit.code
