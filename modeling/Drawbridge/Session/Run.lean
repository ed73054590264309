import Drawbridge.Process.Step
import Drawbridge.Session.Step

/-!
# Running a session

A session is the program of one thread. What it remembers is its `World`; the bodies of its host
objects run in the same world.
-/

namespace Drawbridge.Session

/-- What a session remembers: its host objects, and the names that it has given. -/
structure World where
  cast : Cast Body
  interpreters : List (String × InterpreterId)
  /-- the names of the handles seen so far, the latest first -/
  labels : List (Handle × String)
  /-- the replies before a panic -/
  last : List Reply
  /-- the replies of the session -/
  replies : List Reply

/-- The world in which nothing has a name. -/
def World.empty : World := ⟨.empty, [], [], [], []⟩

instance : Inhabited World := ⟨.empty⟩

/-! ## Names -/

/-- The interpreter that goes by a name. -/
def interpreter? (js : String) : Program World (Option InterpreterId) :=
  (·.interpreters.lookup js) <$> Program.get

/-- Lets a name stand for an interpreter, or for none. -/
def setInterpreter (js : String) (id : Option InterpreterId) : Program World Unit :=
  Program.modify fun w =>
    { w with interpreters :=
        (id.map fun i => (js, i)).toList ++ w.interpreters.filter (·.1 != js) }

/-- What a step does with an interpreter, if there is one of that name. -/
def withNamed (js : String) (f : InterpreterId → Program World Reply) : Program World Reply := do
  match ← interpreter? js with
  | some id => f id
  | none => return .fault .noInterpreter

/-- The name a handle goes by: the one it was given when it was first seen. -/
def label (js : String) (h : Handle) : Program World String := do
  if h.isNull then return "null"
  else
    let labels := (← Program.get).labels
    match labels.lookup h with
    | some name => return name
    | none =>
      let name := js ++ "#" ++ toString labels.length
      Program.modify fun w => { w with labels := (h, name) :: w.labels }
      return name

/-- The settings of a JSON text, the default without one. -/
def settings? : Option String → Except Settings.Fault Settings
  | none => .ok default
  | some text =>
    match Settings.read text with
    | .ok s => .ok s
    | .error fault => .error (.malformed fault)

/-! ## Replies -/

/-- The reply with what an operation came to. -/
def replyOf {α : Type} (f : α → Reply) : Except BridgeFault α → Reply
  | .ok a => f a
  | .error fault => .fault (.bridge fault)

/-- Evaluates a source up to `times` times; whether all went well. -/
def evaluateTimes (id : InterpreterId) (source : String) : Nat → Program World Bool
  | 0 => return true
  | n + 1 => do
    match ← Program.evaluate id source none with
    | .ok _ => evaluateTimes id source n
    | .error _ => return false

/-- What each thread does, one after the other. -/
def evaluateInTurn (id : InterpreterId) (source : String) (times : Nat) :
    Nat → Program World Bool
  | 0 => return true
  | n + 1 => do
    let well ← evaluateTimes id source times
    let rest ← evaluateInTurn id source times n
    return well && rest

/-- Closes an interpreter so many times. -/
def closeTimes (id : InterpreterId) : Nat → Program World Unit
  | 0 => return
  | n + 1 => do
    Program.close id
    closeTimes id n

/-- How an interpreter is, which may give its handle a name. -/
def standing (js : String) (id : InterpreterId) : Program World Standing := do
  let handle ← Program.handle id
  let settings ← Program.settings id
  return ⟨handle, ← label js handle, settings.defaultFileName⟩

/-! ## Steps -/

/-- A fresh interpreter takes a name over; the one that had it is dropped. -/
def renew (js : String) (settings : Option String) : Program World Reply := do
  match settings? settings with
  | .error fault => return .fault (.settings fault)
  | .ok settings =>
    match ← Program.create settings with
    | .error fault => return .fault (.bridge fault)
    | .ok id =>
      let old ← interpreter? js
      setInterpreter js (some id)
      match old with
      | some old => Program.drop old
      | none => pure ()
      return .text (← label js (← Program.handle id))

/-- What is done within an interpreter of its own, by the name `js` meanwhile. -/
def enclose (js : String) (settings : Option String) (steps : Program World (List Reply))
    (panic : Option String) : Program World Reply := do
  match settings? settings with
  | .error fault => return .fault (.settings fault)
  | .ok settings =>
    let body (id : InterpreterId) : Program World Reply := do
      let old ← interpreter? js
      setInterpreter js (some id)
      let name ← label js (← Program.handle id)
      let replies ← steps
      setInterpreter js old
      match panic with
      | none => return .within name replies
      | some message =>
        Program.modify fun w => { w with last := replies }
        Program.panic (.text message)
    match ← (Program.withInterpreter settings body).attempt with
    | .ok r => return replyOf id r
    | .error (.text message) => return .panicked message (← Program.get).last
    | .error .other => return .panicked "" (← Program.get).last

mutual

/-- A step, with the text that stands for a source it does not have. -/
def Step.run (given : String) : Step → Program World Reply
  | .create js settings => renew js settings
  | .object name type further methods => do
    Program.modify fun w => { w with cast := w.cast.add name (.build type further methods) }
    return .void
  | .evaluate js source file =>
    withNamed js fun id => replyOf .text <$> Program.evaluate id (source.getD given) file
  | .bind js name contract target =>
    withNamed js fun id => do
      match (← Program.get).cast.find? target with
      | some o => replyOf (fun _ => .void) <$> Program.bindObject id name contract o
      | none => return .fault .noObject
  | .globals js => withNamed js fun id => replyOf .names <$> Program.globals id
  | .collect js => withNamed js fun id => replyOf (fun _ => .void) <$> Program.collect id
  | .close js =>
    withNamed js fun id => do
      Program.close id
      return .void
  | .drop js =>
    withNamed js fun id => do
      setInterpreter js none
      Program.drop id
      return .void
  | .state js => withNamed js fun id => .standing <$> standing js id
  | .released target => do
    match (← Program.get).cast.find? target with
    | some o => return .flag ((← Program.references o) == 0)
    | none => return .fault .noObject
  | .calls target => do
    let w ← Program.get
    match w.cast.find? target with
    | some o =>
      let (records, cast) := w.cast.takeRecords o
      Program.set { w with cast }
      return .calls records
    | none => return .fault .noObject
  | .events => .events <$> Program.events
  | .evaluateThreads js threads times source =>
    withNamed js fun id => .flag <$> evaluateInTurn id source times threads
  | .closeThreads js threads =>
    withNamed js fun id => do
      closeTimes id threads
      return .void
  | .within js settings steps panic => enclose js settings (Step.runAll given steps) panic

/-- Steps in turn, with the reply to each. -/
def Step.runAll (given : String) : List Step → Program World (List Reply)
  | [] => return []
  | s :: rest => do
    let reply ← s.run given
    let replies ← Step.runAll given rest
    return reply :: replies

end

/-! ## Host objects -/

/-- The first argument, if it is text. -/
def givenText (args : List Datum) : String := (args.head?.bind Datum.text?).getD ""

/-- Runs the body of a method. -/
def invoke (object : ObjectId) (method : String) (args : List Datum) :
    Program World MethodResult := do
  let w ← Program.get
  match w.cast.call object method args with
  | none => return .error (HostObject.lackingMessage method)
  | some (body, n, cast) =>
    Program.set { w with cast }
    match body with
    | .plain behaviour => (behaviour.outcome n args).toProgram
    | .step step => Reply.toResult <$> step.run (givenText args)

/-- The host objects of a session. -/
def host : Host World where
  facets w object := w.cast.facets object
  invoke := invoke

/-! ## Sessions -/

/-- The program of a session, which leaves its replies in the world. -/
def program (steps : List Step) : Program World MethodResult := do
  let replies ← Step.runAll "" steps
  Program.modify fun w => { w with replies }
  return .ok .void

/-- The replies to the steps of a session, within `n` steps of its process. -/
def run (E : Engine) (n : Nat) (steps : List Step) : List Reply :=
  ((Process.start E World.empty [program steps]).runThread host ⟨0⟩ n).memory.replies

end Drawbridge.Session
