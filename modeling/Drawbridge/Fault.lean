import Drawbridge.Backtrace
import Drawbridge.Contract

/-!
# Faults that reach the host

A script that fails leaves a `ScriptFault`: its message with the file and, where it is known, the
line. `BridgeFault` is everything an operation on an interpreter can fail with.
-/

namespace Drawbridge

/-- What went wrong in a script: the message, the file and, where it is known, the line. -/
structure ScriptFault where
  message : String
  file : Option String
  line : Option UInt32
  deriving DecidableEq, Repr

namespace ScriptFault

/-- A fault of which no place is known. -/
def ofMessage (message : String) : ScriptFault := ⟨message, none, none⟩

/-- The fault in a file. -/
def inFile (fault : ScriptFault) (file : String) : ScriptFault := { fault with file := some file }

/-- The fault at a line. -/
def atLine (fault : ScriptFault) (line : UInt32) : ScriptFault := { fault with line := some line }

/-- The message with what is known of the place in parentheses. -/
def describe (fault : ScriptFault) : String :=
  fault.message ++
    match fault.file, fault.line with
    | some file, some line => " (" ++ file ++ ":" ++ toString line ++ ")"
    | some file, none => " (" ++ file ++ ")"
    | none, some line => " (line " ++ toString line ++ ")"
    | none, none => ""

end ScriptFault

/-- Why an engine has no text to give for a source. -/
inductive Failure where
  /-- A thrown value, as text unless it has none, and its backtrace if it carries one. -/
  | thrown (text : Option String) (stack : Option String)
  /-- The engine could not take the source in, or give the text out. -/
  | refused (message : String)
  deriving DecidableEq, Repr

namespace Failure

/-- What is said of a failure, without its place. -/
def message : Failure → String
  | thrown (some text) _ => text
  | thrown none _ => "uncaught exception"
  | refused message => message

/-- The fault of a source evaluated under the name `file`. -/
def toFault (file : String) : Failure → ScriptFault
  | thrown text stack =>
    { message := (thrown text stack).message
      file := some file
      line := stack.bind (Backtrace.lineIn file) }
  | refused message => { message, file := some file, line := none }

end Failure

/-- Why an operation on an interpreter comes to no result. -/
inductive BridgeFault where
  | outOfMemory
  | closed
  | script (fault : ScriptFault)
  | bind (refusal : Refusal)
  | engine (message : String)
  deriving DecidableEq, Repr

/-- What the host is told. -/
def BridgeFault.message : BridgeFault → String
  | outOfMemory => "cannot create interpreter instance: out of memory"
  | closed => "interpreter instance is closed"
  | script fault => fault.describe
  | bind refusal => refusal.message
  | engine message => "engine failure: " ++ message

end Drawbridge
