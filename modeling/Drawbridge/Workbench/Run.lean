import Drawbridge.Workbench.Step

/-!
# Working at the workbench

The state of a workbench and what each step does to it.
-/

namespace Drawbridge

/-- What lies on a workbench: host objects, a switchboard, labelled bindings, and an engine. -/
structure Workbench where
  cast : Cast Behaviour
  board : Switchboard
  /-- the bindings that have a label -/
  labels : List (String × Binding)
  /-- the engine, once it was needed -/
  engine : Option Script.Machine
  /-- what was reported, the latest first -/
  log : List Event

namespace Workbench

/-- The workbench with nothing on it. -/
def empty : Workbench := ⟨.empty, .empty, [], none, []⟩

instance : Inhabited Workbench := ⟨empty⟩

/-- Reports events. -/
def report (w : Workbench) (events : List Event) : Workbench :=
  { w with log := events.reverse ++ w.log }

/-- The bindings that labels, the switchboard and proxies in the engine hold. -/
def held (w : Workbench) : List Binding :=
  w.labels.map (·.2) ++ w.board.published ++ (w.engine.map (·.proxies)).getD []

/-- The number of references to an object. -/
def references (w : Workbench) (object : ObjectId) : Nat := w.held.countP (·.object == object)

/-! ## Calls -/

/-- Carries a call out. -/
def perform (w : Workbench) (i : Invocation) : Outcome × Workbench :=
  let w := w.report [i.event]
  let object := i.binding.object
  match w.cast.puppet? object with
  | none => (.failed (HostObject.lackingMessage i.signature.name), w)
  | some p =>
    let (outcome, p) := p.invoke i.signature.name i.args
    (outcome, { w with cast := w.cast.setPuppet object p })

/-- A call with arguments of the host. -/
def callHost (w : Workbench) (b : Binding) (method : Nat) (args : List Datum) :
    Except CallFault Datum × Workbench :=
  b.call (fun i w => w.perform i) method args w

/-- A call from script. -/
def callScript (target : CallTarget) (args : List ScriptValue) (w : Workbench) :
    Answer × Workbench :=
  w.board.dispatch (fun i w => w.perform i) target args w

/-! ## The engine -/

/-- Works in the engine of the workbench, which is set up first if there is none. -/
def inEngine {α : Type} (w : Workbench) (f : α → Reply)
    (work : Script.Machine → Activity Script.Machine α) : Reply × Workbench :=
  match w.engine.orElse fun _ => Script.Machine.ofSettings? .utc default with
  | none => (.fault (.bridge .outOfMemory), w)
  | some m =>
    let (a, m, w) := (work m).run callScript w
    (f a, { w with engine := some m })

/-- The reply with what an installation came to. -/
def installed : Except Failure Unit → Reply
  | .ok () => .void
  | .error failure => .fault (.bridge (.engine failure.message))

/-- The reply with what an evaluation came to. -/
def evaluated (file : String) : Except Failure String → Reply
  | .ok text => .text text
  | .error failure => .fault (.bridge (.script (failure.toFault file)))

/-! ## Steps -/

/-- What a step does with a binding, if there is one of that label. -/
def withBinding (w : Workbench) (label : String) (f : Binding → Reply × Workbench) :
    Reply × Workbench :=
  match w.labels.lookup label with
  | some b => f b
  | none => (.fault .noGlobal, w)

/-- What a step does with an object, if there is one of that name. -/
def withObject (w : Workbench) (name : String) (f : ObjectId → Reply × Workbench) :
    Reply × Workbench :=
  match w.cast.find? name with
  | some o => f o
  | none => (.fault .noObject, w)

/-- Prepares a binding of an object that passes the check, and labels it. -/
def prepare (w : Workbench) (label name : String) (o judge : ObjectId) (contract : Contract) :
    Reply × Workbench :=
  match contract.check (w.cast.facets judge) with
  | .error refusal => (.fault (.refused refusal), w.report refusal.events)
  | .ok roster =>
    let (b, board) := w.board.prepare name roster o
    let labels := (label, b) :: w.labels.filter (·.1 != label)
    (.binding (some b), { w with board, labels })

/-- What a step does, and the reply to it. -/
def step (w : Workbench) : Step → Reply × Workbench
  | .object name o => (.void, { w with cast := w.cast.add name o })
  | .prepare label name object contract describedBy =>
    w.withObject object fun o =>
      w.withObject (describedBy.getD object) fun judge => w.prepare label name o judge contract
  | .commit label =>
    w.withBinding label fun b =>
      let board := w.board.commit b
      (.size board.size, { w.report (w.board.commitEvents b) with board })
  | .get name => (.binding (w.board.get? name), w)
  | .names => (.names w.board.names, w)
  | .clear =>
    let board := w.board.clear
    (.size board.size, { w with board })
  | .resolve label method =>
    w.withBinding label fun b => (.resolved ((w.board.resolve ⟨b, method⟩).map (·.id)), w)
  | .call label method args =>
    w.withBinding label fun b =>
      match w.callHost b method args with
      | (.ok d, w) => (.value d, w)
      | (.error fault, w) => (.fault (.call fault), w)
  | .dispatch label method sources =>
    w.withBinding label fun b =>
      match Script.lookFresh callScript (Script.Exec.callWith ⟨b, method⟩ sources) w with
      | (.ok l, w) => (.look l, w)
      | (.error words, w) => (.fault (.thrown words), w)
  | .install label =>
    w.withBinding label fun b =>
      w.inEngine installed ((Script.engine .utc).install b)
  | .evaluate source file =>
    let file := file.getD "?"
    w.inEngine (evaluated file) ((Script.engine .utc).evaluate source file)
  | .destroy => (.void, { w with engine := none })
  | .forget label => (.void, { w with labels := w.labels.filter (·.1 != label) })
  | .released object => w.withObject object fun o => (.flag (w.references o == 0), w)
  | .calls object =>
    w.withObject object fun o =>
      let (records, cast) := w.cast.takeRecords o
      (.calls records, { w with cast })
  | .events => (.events w.log.reverse, { w with log := [] })

/-- The replies to steps in turn. -/
def runFrom (w : Workbench) : List Step → List Reply
  | [] => []
  | s :: rest =>
    let (reply, w) := w.step s
    reply :: runFrom w rest

/-- The replies to steps in turn, from an empty workbench on. -/
def run (steps : List Step) : List Reply := runFrom empty steps

end Workbench

end Drawbridge
