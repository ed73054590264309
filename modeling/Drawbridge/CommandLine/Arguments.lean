/-!
# Arguments of the command

What a run is asked to do, read from a list of arguments. Arguments count in order: the first one
at fault decides, and so does the first that asks for the version or for help.
-/

namespace Drawbridge.CommandLine

/-- What the arguments of a run give: settings, a file name, a source, a script. -/
structure Arguments where
  config : Option String
  fileName : Option String
  source : Option String
  script : Option String
  deriving DecidableEq, Repr, Inhabited

/-- What the arguments ask for. -/
inductive Demand where
  | evaluation (a : Arguments)
  | version
  | help
  deriving DecidableEq, Repr

/-! ## Slots -/

/-- What takes a value. -/
inductive Slot where
  | config
  | fileName
  | source
  | script
  deriving DecidableEq, Repr

namespace Slot

/-- How messages name a slot. -/
def usage : Slot → String
  | config => "--config <CONFIG>"
  | fileName => "--file-name <FILE_NAME>"
  | source => "--eval <SOURCE>"
  | script => "[SCRIPT]"

/-- Whether the value is a path, which cannot be empty. -/
def isPath : Slot → Bool
  | config | script => true
  | fileName | source => false

/-- The slot with a long name. -/
def ofLong? : String → Option Slot
  | "config" => some config
  | "file-name" => some fileName
  | "eval" => some source
  | _ => none

/-- The slot with a letter. -/
def ofShort? : Char → Option Slot
  | 'c' => some config
  | 'e' => some source
  | _ => none

end Slot

/-- Why a list of arguments is not accepted. -/
inductive Fault where
  | unexpected (argument : String)
  | lacking (slot : Slot)
  | repeated (slot : Slot)
  | flagValue (flag value : String)
  /-- a source and a script at once -/
  | conflict
  deriving DecidableEq, Repr

/-- What the user is told. -/
def Fault.message : Fault → String
  | unexpected argument => "unexpected argument '" ++ argument ++ "' found"
  | lacking slot => "a value is required for '" ++ slot.usage ++ "' but none was supplied"
  | repeated slot => "the argument '" ++ slot.usage ++ "' cannot be used multiple times"
  | flagValue flag value =>
    "unexpected value '" ++ value ++ "' for '--" ++ flag ++ "' found; no more were expected"
  | conflict =>
    "the argument '" ++ Slot.source.usage ++ "' cannot be used with '" ++ Slot.script.usage ++ "'"

namespace Arguments

/-- The value of a slot, if it was given one. -/
def get (a : Arguments) : Slot → Option String
  | .config => a.config
  | .fileName => a.fileName
  | .source => a.source
  | .script => a.script

/-- The arguments with a value in a slot, whether it had one or not. -/
def put (a : Arguments) (value : String) : Slot → Arguments
  | .config => { a with config := some value }
  | .fileName => { a with fileName := some value }
  | .source => { a with source := some value }
  | .script => { a with script := some value }

/-- Gives a slot its value, once. -/
def fill (a : Arguments) (slot : Slot) (value : String) : Except Fault Arguments :=
  if slot.isPath && value.isEmpty then .error (.lacking slot)
  else if (a.get slot).isSome then .error (.repeated slot)
  else .ok (a.put value slot)

/-- A value that stands by itself is the script, of which there is one. -/
def fillScript (a : Arguments) (value : String) : Except Fault Arguments :=
  if a.script.isSome then .error (.unexpected value) else a.fill .script value

/-- All arguments are read. -/
def finish (a : Arguments) : Except Fault Demand :=
  if a.source.isSome && a.script.isSome then .error .conflict else .ok (.evaluation a)

/-! ## Single arguments -/

/-- What one argument comes to: the arguments so far with perhaps a slot whose value comes next, or
the end. -/
inductive Reading where
  | more (a : Arguments) (open? : Option Slot)
  | demand (d : Demand)

/-- An option by its long name, with the value behind an equals sign if there is one. -/
def readLong (a : Arguments) (argument name : String) (value : Option String) :
    Except Fault Reading :=
  match Slot.ofLong? name, value with
  | some slot, some value => (.more · none) <$> a.fill slot value
  | some slot, none => .ok (.more a (some slot))
  | none, value =>
    match name, value with
    | "version", none => .ok (.demand .version)
    | "help", none => .ok (.demand .help)
    | "version", some value => .error (.flagValue "version" value)
    | "help", some value => .error (.flagValue "help" value)
    | _, _ => .error (.unexpected argument)

/-- An option by its letter, with what follows in the same argument. -/
def readShort (a : Arguments) (letter : Char) (rest : List Char) : Except Fault Reading :=
  match Slot.ofShort? letter, rest with
  | some slot, [] => .ok (.more a (some slot))
  | some slot, '=' :: value => (.more · none) <$> a.fill slot (String.ofList value)
  | some slot, value => (.more · none) <$> a.fill slot (String.ofList value)
  | none, _ =>
    if letter = 'V' then .ok (.demand .version)
    else if letter = 'h' then .ok (.demand .help)
    else .error (.unexpected (String.ofList ['-', letter]))

/-- Whether an argument is an option. A dash alone is a value. -/
def isOption (argument : String) : Bool := argument.startsWith "-" && argument ≠ "-"

/-- An argument that is an option, by its long name or by its letter. -/
def readOption (a : Arguments) (argument : String) : Except Fault Reading :=
  match argument.toList with
  | '-' :: '-' :: cs =>
    let name := String.ofList (cs.takeWhile (· ≠ '='))
    match cs.dropWhile (· ≠ '=') with
    | _ :: value => a.readLong argument name (some (String.ofList value))
    | [] => a.readLong argument name none
  | '-' :: letter :: rest => a.readShort letter rest
  | _ => .error (.unexpected argument)

/-! ## All arguments -/

/-- What is left when no more options are looked for. -/
def readScripts (a : Arguments) : List String → Except Fault Demand
  | [] => a.finish
  | value :: rest => do
    let a ← a.fillScript value
    readScripts a rest

/-- The arguments still to be read; the value of an open slot comes first. -/
def readFrom (a : Arguments) (open? : Option Slot) : List String → Except Fault Demand
  | [] =>
    match open? with
    | some slot => .error (.lacking slot)
    | none => a.finish
  | argument :: rest =>
    match open? with
    | some slot =>
      if isOption argument then .error (.lacking slot)
      else do
        let a ← a.fill slot argument
        readFrom a none rest
    | none =>
      if argument = "--" then readScripts a rest
      else if isOption argument then
        match a.readOption argument with
        | .error fault => .error fault
        | .ok (.demand d) => .ok d
        | .ok (.more a open?) => readFrom a open? rest
      else do
        let a ← a.fillScript argument
        readFrom a none rest

end Arguments

/-- What a list of arguments asks for. -/
def Demand.read (args : List String) : Except Fault Demand := Arguments.readFrom default none args

end Drawbridge.CommandLine
