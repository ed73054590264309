import Drawbridge.Process.Basic

/-!
# Steps of a process

`Process.step?` is the next step of a thread: the least that other threads can see as one change.
There is none while the thread waits for a lock, nor once its program is at its end. A run is any
sequence of steps; `Process.runThread` lets one thread go on until it has no step.
-/

namespace Drawbridge.Process

variable {E : Engine} {σ : Type}

/-! ## Parts of steps -/

/-- Lets go of the engine, if the entry still has it. -/
def release (p : Process E σ) (e : EntryId) : Process E σ :=
  match p.entry? e with
  | none => p
  | some entry =>
    let p := p.modifyEntry e fun entry =>
      { entry with engine := none, board := entry.board.clear, releases := entry.releases + 1 }
    match entry.engine with
    | some _ => p.report [if entry.pins = 0 then .destroyed else .shared]
    | none => p

/-- Takes the lock of an entry, unless another thread has it. -/
def acquire? (p : Process E σ) (t : ThreadId) (e : EntryId) : Option (Process E σ) :=
  match p.entry? e with
  | none => none
  | some entry =>
    match entry.lock with
    | none => some (p.modifyEntry e fun entry => { entry with lock := some (t, 1) })
    | some (owner, holds) =>
      if owner = t then
        some (p.modifyEntry e fun entry => { entry with lock := some (t, holds + 1) })
      else none

/-- Gives the lock of an entry back. -/
def giveBack (p : Process E σ) (e : EntryId) : Process E σ :=
  p.modifyEntry e fun entry =>
    { entry with
      lock := match entry.lock with
        | some (owner, holds) => if holds ≤ 1 then none else some (owner, holds - 1)
        | none => none }

/-- What the engine does for an operation. -/
def begin (E : Engine) (op : Operation) (pending : Option Binding) (c : E.Context) :
    Activity E.Context (Except BridgeFault op.Result) :=
  match op with
  | .evaluate source file =>
    (E.evaluate source file c).map fun r =>
      match r with
      | .ok text => .ok text
      | .error failure => .error (.script (failure.toFault file))
  | .bind .. =>
    match pending with
    | some b =>
      (E.install b c).map fun r =>
        match r with
        | .ok () => .ok ()
        | .error failure => .error (.engine failure.message)
    | none => .done (.ok ()) c
  | .collect => .done (.ok ()) (E.collect c)

/-- Whether the engine may be entered, and then whether that is from within it. -/
def entrance? (thread : Thread E.Context σ) (t : ThreadId) (e : EntryId)
    (entry : Entry E.Context) : Option (Bool × Entry E.Context) :=
  if thread.active.contains e then some (true, entry)
  else
    match entry.gate with
    | none => some (false, { entry with gate := some t })
    | some _ => none

/-- What a method did, as its program ended. -/
def outcomeOf : Except Panic MethodResult → Outcome
  | .ok (.ok value) => .returned value
  | .ok (.error message) => .failed message
  | .error payload => .panicked payload

/-! ## Stages -/

/-- Host code makes a request. -/
def ask (p : Process E σ) (thread : Thread E.Context σ) (t : ThreadId) (r : Request)
    (next : r.Reply → Program σ MethodResult) : Process E σ :=
  let go (p : Process E σ) (stage : Stage E.Context σ) : Process E σ :=
    p.setThread t { thread with stage }
  match r with
  | .create settings =>
    match E.create? settings with
    | none => go (p.report [.unallocated]) (.host (next (.error .outOfMemory)))
    | some c =>
      let e : EntryId := ⟨p.entries.size⟩
      let (h, directory) := p.directory.insert e
      let js : InterpreterId := ⟨p.interpreters.size⟩
      let p := { p with
        entries := p.entries.push (.fresh c)
        directory
        interpreters := p.interpreters.push ⟨h.toBits, settings⟩ }
      go (p.report [.created]) (.host (next (.ok js)))
  | .use js what =>
    let h := p.handleOf js
    if h.isNull then go p (.host (next (.error .closed)))
    else
      match what with
      | .evaluate source none =>
        go p (.find h (.evaluate source (p.settingsOf js).defaultFileName) next)
      | what => go p (.find h what next)
  | .close js =>
    let h := p.handleOf js
    let p := { p with
      interpreters := p.interpreters.modify js.index fun i => { i with word := 0 } }
    if h.isNull then go p (.host (next ())) else go p (.vacate h (next ()))
  | .drop js =>
    let p := if (p.handleOf js).isNull then p else p.report [.leaked]
    go p (.host (next ()))
  | .handle js => go p (.host (next (p.handleOf js)))
  | .settings js => go p (.host (next (p.settingsOf js)))
  | .references object => go p (.host (next (p.references object)))
  | .events => go { p with log := [] } (.host (next p.log.reverse))

/-- The entry of a use was found: a bind is checked before anything is touched. -/
def admission (host : Host σ) (p : Process E σ) (go : Process E σ → Stage E.Context σ → Process E σ)
    (e : EntryId) (what : Use) (back : Except BridgeFault what.Result → Program σ MethodResult) :
    Process E σ :=
  match what with
  | .globals => go p (.names e back)
  | .evaluate source file => go p (.lock ⟨e, .evaluate source (file.getD ""), back⟩)
  | .collect => go p (.lock ⟨e, .collect, back⟩)
  | .bind name contract object =>
    if name.isEmpty then go p (.host (back (.error (.bind .unnamed))))
    else
      match contract.check (host.facets p.memory object) with
      | .error refusal => go (p.report refusal.events) (.host (back (.error (.bind refusal))))
      | .ok roster => go p (.lock ⟨e, .bind name roster object, back⟩)

/-- The engine has come to a call of the host: one that passes the gate is carried out. -/
def dispatch (host : Host σ) (p : Process E σ) (thread : Thread E.Context σ) (t : ThreadId)
    (w : Work E.Context σ) (target : CallTarget) (args : List ScriptValue) (c : E.Context)
    (resume : Answer → E.Context → Activity E.Context
      (Except BridgeFault w.underway.operation.Result)) : Process E σ :=
  let board := ((p.entry? w.underway.entry).map (·.board)).getD .empty
  match board.route target args with
  | .error fault => p.setThread t { thread with stage := .work w (resume (.error fault) c) }
  | .ok invocation =>
    let p := p.modifyEntry w.underway.entry fun entry => { entry with engine := some c }
    let body := host.invoke invocation.binding.object invocation.signature.name invocation.args
    (p.report [invocation.event]).setThread t
      { stage := .host body
        calls := ⟨w, invocation, resume⟩ :: thread.calls
        active := w.underway.entry :: thread.active }

/-- A method body is at its end: the engine goes on with what came of it. None at the end of the
thread's own program. -/
def return? (p : Process E σ) (thread : Thread E.Context σ) (t : ThreadId)
    (r : Except Panic MethodResult) : Option (Process E σ) :=
  match thread.calls with
  | [] => none
  | call :: calls =>
    match (p.entry? call.work.underway.entry).bind (·.engine) with
    | none => none
    | some c =>
      let answer := call.invocation.reply (outcomeOf r)
      some (p.setThread t
        { stage := .work call.work (call.resume answer c), calls, active := thread.active.tail })

/-- The step of a thread at its stage. -/
def stepThread? (host : Host σ) (p : Process E σ) (thread : Thread E.Context σ) (t : ThreadId) :
    Option (Process E σ) :=
  let go (p : Process E σ) (stage : Stage E.Context σ) : Process E σ :=
    p.setThread t { thread with stage }
  match thread.stage with
  | .host (.done r) => p.return? thread t (.ok r)
  | .host (.panic payload) => p.return? thread t (.error payload)
  | .host (.read next) => some (go p (.host (next p.memory)))
  | .host (.write memory next) => some (go { p with memory } (.host next))
  | .host (.ask r next) => some (p.ask thread t r next)
  | .find h what back =>
    match p.directory.get? h with
    | none => some (go p (.host (back (.error .closed))))
    | some e => some (admission host p go e what back)
  | .names e back =>
    (p.entry? e).map fun entry => go p (.host (back (.ok entry.board.names)))
  | .lock u => (p.acquire? t u.entry).map fun p => go p (.check u)
  | .check u =>
    match p.entry? u.entry with
    | none => none
    | some entry =>
      match entry.engine with
      | none => some (go p (.unlock u (.error .closed)))
      | some _ =>
        let entered (entry : Entry E.Context) : Entry E.Context :=
          { entry with depth := entry.depth + 1, pins := entry.pins + 1 }
        match u.operation with
        | .bind name roster object =>
          let (b, board) := entry.board.prepare name roster object
          some (go (p.modifyEntry u.entry fun entry => { entered entry with board })
            (.enter u (some b)))
        | _ => some (go (p.modifyEntry u.entry entered) (.enter u none))
  | .enter u pending =>
    match p.entry? u.entry with
    | none => none
    | some entry =>
      match entrance? thread t u.entry entry, entry.engine with
      | some (direct, entry), some c =>
        some (go (p.modifyEntry u.entry fun _ => entry)
          (.work ⟨u, direct, pending⟩ (begin E u.operation pending c)))
      | _, _ => none
  | .work w (.done r c) =>
    some (go (p.modifyEntry w.underway.entry fun entry => { entry with engine := some c })
      (.leave w r))
  | .work w (.call target args c resume) => some (p.dispatch host thread t w target args c resume)
  | .leave w r =>
    let p := if w.direct then p
      else p.modifyEntry w.underway.entry fun entry => { entry with gate := none }
    some (go p (.publish w r))
  | .publish w r =>
    match p.entry? w.underway.entry, w.pending, r with
    | some entry, some b, .ok _ =>
      let events := .bound b.name b.roster.contract b.roster.size :: entry.board.commitEvents b
      some (go ((p.modifyEntry w.underway.entry fun entry =>
        { entry with board := entry.board.commit b }).report events) (.finish w.underway r))
    | _, _, _ => some (go p (.finish w.underway r))
  | .finish u r =>
    match p.entry? u.entry with
    | none => none
    | some entry =>
      let isLast := entry.depth = 1 && entry.closing
      let p := p.modifyEntry u.entry fun entry =>
        { entry with
          depth := entry.depth - 1
          pins := entry.pins - 1
          closing := entry.closing && !isLast }
      some (go (if isLast then p.release u.entry else p) (.unlock u r))
  | .unlock u r => some (go (p.giveBack u.entry) (.host (u.back r)))
  | .vacate h back =>
    match p.directory.remove h with
    | (none, _) => some (go p (.host back))
    | (some e, directory) => some (go { p with directory } (.lockToClose e back))
  | .lockToClose e back => (p.acquire? t e).map fun p => go p (.destroy e back)
  | .destroy e back =>
    match p.entry? e with
    | none => none
    | some entry =>
      if 0 < entry.depth then
        some (go ((p.modifyEntry e fun entry => { entry with closing := true }).report [.deferred])
          (.unlockClosed e back))
      else some (go (p.release e) (.unlockClosed e back))
  | .unlockClosed e back => some (go ((p.giveBack e).report [.closed]) (.host back))

/-- The next step of a thread. -/
def step? (host : Host σ) (p : Process E σ) (t : ThreadId) : Option (Process E σ) :=
  match p.threads[t.index]? with
  | none => none
  | some thread => p.stepThread? host thread t

/-- Lets a thread go on, at most `n` steps. -/
def runThread (host : Host σ) (t : ThreadId) : Nat → Process E σ → Process E σ
  | 0, p => p
  | n + 1, p =>
    match p.step? host t with
    | none => p
    | some p => runThread host t n p

end Drawbridge.Process
