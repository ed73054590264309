import Drawbridge.Proofs.Process.Closing
import Drawbridge.Proofs.Process.Gates

/-!
# One thread alone

A thread that goes on alone carries an operation through: it comes to the engine
(`Run.evaluates`), from there to the method that the script calls (`Stands.calls`) and back
(`Stands.resumes`), and to the result (`Stands.concludes`).  `Stands` says what has changed since it
began: one entry, the thread and the memory.
-/

namespace Drawbridge

variable {C : Type} {E : Engine} {σ : Type}

/-- Host code comes so far with its memory, on its own. -/
inductive Program.Leads {α : Type} : σ → Program σ α → σ → Program σ α → Prop
  | refl {s body} : Leads s body s body
  | read {s next s' body} (rest : Leads s (next s) s' body) : Leads s (.read next) s' body
  | write {s₀ s next s' body} (rest : Leads s next s' body) : Leads s₀ (.write s next) s' body

/-- A thread has come to the engine for one operation more. -/
def Entry.begun (t : ThreadId) (op : Operation) (x : Entry C) : Entry C :=
  { (x.grab t).engage op with gate := some t }

/-- A thread has come to the engine for one operation more, which makes no binding. -/
def Entry.entered (t : ThreadId) (x : Entry C) : Entry C :=
  { x.grab t with depth := x.depth + 1, pins := x.pins + 1, gate := some t }

/-- The operation is over, from within the engine or not. -/
def Entry.exited (direct : Bool) (c : C) (x : Entry C) : Entry C :=
  ({ x with engine := some c, gate := if direct then x.gate else none }.dismiss).letGo

namespace Process

variable {host : Host σ} {p q r : Process E σ} {t : ThreadId} {th th' : Thread E.Context σ}
  {e : EntryId} {x : Entry E.Context} {s s' : σ}

/-- Thread `t` comes from `p` to `q`, and no other makes a step. -/
def Alone (host : Host σ) (t : ThreadId) (p q : Process E σ) : Prop :=
  ∃ past, Run host p past q ∧ ∀ m ∈ past, m.thread = t

theorem Alone.refl (p : Process E σ) : Alone host t p p := ⟨[], .refl, nofun⟩

theorem Alone.step (alone : Alone host t p q) (next : q.step? host t = some r) :
    Alone host t p r := by
  obtain ⟨past, run, own⟩ := alone
  exact ⟨_, run.step next, by simpa using own⟩

theorem Alone.trans (first : Alone host t p q) (second : Alone host t q r) : Alone host t p r := by
  obtain ⟨past, run, own⟩ := first
  obtain ⟨past', run', own'⟩ := second
  refine ⟨_, run.trans run', fun m hm => ?_⟩
  rcases List.mem_append.1 hm with hm | hm
  · exact own' m hm
  · exact own m hm

/-- From `p` thread `t` has come to `q` alone. It is `th` there, the memory is `s` and the entry of
`e` is `x`; no other entry has changed. -/
structure Stands (host : Host σ) (p : Process E σ) (t : ThreadId) (e : EntryId)
    (x : Entry E.Context) (th : Thread E.Context σ) (s : σ) (q : Process E σ) : Prop where
  alone : Alone host t p q
  entry : q.entry? e = some x
  others : ∀ e', e' ≠ e → q.entry? e' = p.entry? e'
  directory : q.directory = p.directory
  interpreters : q.interpreters = p.interpreters
  at_t : q.threads[t.index]? = some th
  memory : q.memory = s

theorem stands_self (hx : p.entry? e = some x) (at_t : p.threads[t.index]? = some th) :
    Stands host p t e x th p.memory p where
  alone := .refl p
  entry := hx
  others _ _ := rfl
  directory := rfl
  interpreters := rfl
  at_t := at_t
  memory := rfl

namespace Stands

variable (stands : Stands host p t e x th s q)

include stands

/-- A step on the entry. -/
theorem steps (f : Entry E.Context → Entry E.Context) (events : List Event)
    (next : q.step? host t = some (((q.modifyEntry e f).report events).setThread t th')) :
    ∃ q', Stands host p t e (f x) th' s q' := by
  refine ⟨_, stands.alone.step next, entry?_modify f stands.entry, fun e' he => ?_,
    stands.directory, stands.interpreters,
    getElem?_setThread_self (p := (q.modifyEntry e f).report events) stands.at_t, stands.memory⟩
  exact (entry?_modify_of_ne f (Ne.symm he)).trans (stands.others e' he)

theorem acts (f : Entry E.Context → Entry E.Context)
    (act : Act host q t th (q.modifyEntry e f) th') : ∃ q', Stands host p t e (f x) th' s q' :=
  stands.steps f [] (act.step?_eq stands.at_t)

/-- A step that changes no entry. -/
theorem passes (act : Act host q t th q th') : ∃ q', Stands host p t e x th' s q' :=
  ⟨_, stands.alone.step (act.step?_eq stands.at_t), stands.entry, stands.others, stands.directory,
    stands.interpreters, getElem?_setThread_self stands.at_t, stands.memory⟩

end Stands

/-- Host code goes on with its memory. -/
theorem Stands.leads {body body' : Program σ MethodResult} {calls : List (HostCall E.Context σ)}
    {active : List EntryId} (stands : Stands host p t e x ⟨.host body, calls, active⟩ s q)
    (leads : Program.Leads s body s' body') :
    ∃ q', Stands host p t e x ⟨.host body', calls, active⟩ s' q' := by
  induction leads generalizing q with
  | refl => exact ⟨q, stands⟩
  | @read s next s' body rest ih =>
    obtain ⟨q', stands'⟩ := stands.passes (.read rfl)
    rw [stands.memory] at stands'
    exact ih stands'
  | @write s₀ s next s' body rest ih =>
    have act : Act host q t ⟨.host (.write s next), calls, active⟩ { q with memory := s }
        ⟨.host next, calls, active⟩ := .write rfl
    exact ih ⟨stands.alone.step (act.step?_eq stands.at_t), stands.entry, stands.others,
      stands.directory, stands.interpreters, getElem?_setThread_self stands.at_t, rfl⟩

theorem Stands.trans {x' : Entry E.Context} (first : Stands host p t e x th s q)
    (second : Stands host q t e x' th' s' r) : Stands host p t e x' th' s' r where
  alone := first.alone.trans second.alone
  entry := second.entry
  others e' he := (second.others e' he).trans (first.others e' he)
  directory := second.directory.trans first.directory
  interpreters := second.interpreters.trans first.interpreters
  at_t := second.at_t
  memory := second.memory

/-- Host code goes on from where the thread stands. -/
theorem Stands.led {body body' : Program σ MethodResult} {calls : List (HostCall E.Context σ)}
    {active : List EntryId} (stands : Stands host p t e x ⟨.host body, calls, active⟩ s q)
    (leads : Program.Leads s body s' body') :
    ∃ q', Stands host q t e x ⟨.host body', calls, active⟩ s' q' := by
  have here : Stands host q t e x ⟨.host body, calls, active⟩ q.memory q :=
    stands_self stands.entry stands.at_t
  rw [stands.memory] at here
  exact here.leads leads

/-- In `q` entries are as in `p` but by `R`, and an engine that was there is the same or, after more
of a script, `sound`. -/
structure Worked (sound : EntryId → E.Context → Prop)
    (R : EntryId → Entry E.Context → Entry E.Context → Prop) (p q : Process E σ) : Prop where
  entries : ∀ e x, p.entry? e = some x → ∃ y, q.entry? e = some y ∧ R e x y ∧
    (y.engine = x.engine ∨ x.engine.isSome ∧ ∃ c, y.engine = some c ∧ sound e c)
  directory : q.directory = p.directory
  interpreters : q.interpreters = p.interpreters

section Worked

variable {sound : EntryId → E.Context → Prop}
  {R R' R'' : EntryId → Entry E.Context → Entry E.Context → Prop} {y : Entry E.Context}

theorem Worked.trans (first : Worked sound R p q) (second : Worked sound R' q r)
    (both : ∀ {e x y z}, R e x y → R' e y z → R'' e x z) : Worked sound R'' p r := by
  refine ⟨fun e x hx => ?_, second.directory.trans first.directory,
    second.interpreters.trans first.interpreters⟩
  obtain ⟨y, hy, changed, engine⟩ := first.entries e x hx
  obtain ⟨z, hz, changed', engine'⟩ := second.entries e y hy
  refine ⟨z, hz, both changed changed', ?_⟩
  rcases engine' with engine' | ⟨there', c', engine', good'⟩
  · rwa [engine']
  · rcases engine with engine | ⟨there, -⟩
    · exact Or.inr ⟨engine ▸ there', c', engine', good'⟩
    · exact Or.inr ⟨there, c', engine', good'⟩

/-- One entry has changed. -/
theorem Stands.worked (stands : Stands host p t e y th s q) (hx : p.entry? e = some x)
    (changed : R e x y)
    (engine : y.engine = x.engine ∨ x.engine.isSome ∧ ∃ c, y.engine = some c ∧ sound e c)
    (others : ∀ e', e' ≠ e → ∀ x, R e' x x) : Worked sound R p q := by
  refine ⟨fun e' x' hx' => ?_, stands.directory, stands.interpreters⟩
  by_cases he : e' = e
  · subst he
    obtain rfl := Option.some.inj (hx'.symm.trans hx)
    exact ⟨y, stands.entry, changed, engine⟩
  · exact ⟨x', (stands.others e' he).trans hx', others e' he x', Or.inl rfl⟩

end Worked

/-- After an operation the entry is as it was but for the engine and what was published. -/
theorem exited_begun (op : Operation) {engine : Option E.Context} {board : Switchboard}
    {direct : Bool} {c : E.Context} (free : x.Open t)
    (locked : ∀ owner n, x.lock = some (owner, n) → 0 < n) (unclosed : x.closing = false)
    (within : direct = true → x.gate = some t) (outer : direct = false → x.gate = none) :
    Entry.exited direct c { x.begun t op with engine, board }
      = { x with engine := some c, board } := by
  have lock : (if x.holds t = 0 then none else some (t, x.holds t)) = x.lock := by
    simpa [Entry.letGo, Entry.grab] using congrArg Entry.lock (letGo_grab free locked)
  have gate : (if direct then some t else none) = x.gate := by
    cases direct with
    | true => exact (within rfl).symm
    | false => exact (outer rfl).symm
  simp [Entry.exited, Entry.letGo, Entry.dismiss, Entry.begun, Entry.engage, Entry.grab, unclosed,
    lock, gate]

/-- After an operation the entry is as it was but for the engine. -/
theorem exited_entered {direct : Bool} {c c' : E.Context} (free : x.Open t)
    (locked : ∀ owner n, x.lock = some (owner, n) → 0 < n) (unclosed : x.closing = false)
    (within : direct = true → x.gate = some t) (outer : direct = false → x.gate = none) :
    ({ x.entered t with engine := some c }).exited direct c' = { x with engine := some c' } :=
  exited_begun (.evaluate "" "") free locked unclosed within outer

/-! ## One operation -/

section Operation

variable {memory : σ} {programs : List (Program σ MethodResult)} {past : List (Moment E σ)}
  {u : Underway σ} {direct : Bool} {pending : Option Binding} {c : E.Context}
  {below : List (HostCall E.Context σ)} {active : List EntryId}
  {result : Except BridgeFault u.operation.Result}

/-- A thread that is to take the lock of an entry comes to the engine, if the lock is open. -/
theorem Run.begins (run : Run host (start E memory programs) past p)
    (at_t : p.threads[t.index]? = some ⟨.lock u, below, active⟩) (hx : p.entry? u.entry = some x)
    (free : x.Open t) (engine : x.engine = some c) :
    ∃ direct q, (direct = true → x.gate = some t) ∧ (direct = false → x.gate = none) ∧
      Stands host p t u.entry (x.begun t u.operation)
        ⟨.work ⟨u, direct, x.pending u.operation⟩
          (begin E u.operation (x.pending u.operation) c), below, active⟩ p.memory q := by
  obtain ⟨q₁, checking⟩ := (stands_self hx at_t).acts (Entry.grab t) (.lock rfl hx free)
  obtain ⟨q₂, entering⟩ := checking.acts (Entry.engage u.operation)
    (.check rfl checking.entry engine)
  obtain ⟨past', onwards, -⟩ := entering.alone
  obtain ⟨x', c', direct, hx', engine', -, has, free', next⟩ :=
    (run.trans onwards).enters entering.at_t rfl
  obtain rfl := Option.some.inj (hx'.symm.trans entering.entry)
  obtain rfl : c' = c := Option.some.inj (engine'.symm.trans engine)
  obtain ⟨q₃, working⟩ := entering.steps (fun x => { x with gate := some t }) [] next
  exact ⟨direct, q₃, has.1, free'.1, working⟩

/-- The engine has come to the result, and the thread leaves it. -/
theorem Stands.quits (stands : Stands host p t u.entry x
      ⟨.work ⟨u, direct, pending⟩ (.done result c), below, active⟩ s q) :
    ∃ q', Stands host p t u.entry
      { x with engine := some c, gate := if direct then x.gate else none }
      ⟨.publish ⟨u, direct, pending⟩ result, below, active⟩ s q' := by
  obtain ⟨q₁, leaving⟩ := stands.acts (fun x => { x with engine := some c })
    (.workDone (w := ⟨u, direct, pending⟩) rfl)
  cases direct with
  | true => exact leaving.passes (.leave (w := ⟨u, true, pending⟩) rfl)
  | false =>
    exact leaving.acts (fun x => { x with gate := none }) (.leave (w := ⟨u, false, pending⟩) rfl)

/-- With what there was to publish published, the operation is over. -/
theorem Stands.finishes
    (stands : Stands host p t u.entry x ⟨.finish u result, below, active⟩ s q)
    (unclosed : x.closing = false) :
    ∃ q', Stands host p t u.entry x.dismiss.letGo ⟨.host (u.back result), below, active⟩ s q' := by
  obtain ⟨q₁, unlocking⟩ := stands.acts Entry.dismiss
    (.finish rfl stands.entry (by simp [Entry.last, unclosed]))
  exact unlocking.acts Entry.letGo (.unlock rfl)

end Operation

/-! ## An evaluation -/

section Evaluation

variable {memory : σ} {programs : List (Program σ MethodResult)} {past : List (Moment E σ)}
  {js : InterpreterId} {source : String} {file : Option String}
  {next : Except BridgeFault String → Program σ MethodResult}
  {below : List (HostCall E.Context σ)} {active : List EntryId}

/-- The name that a source is evaluated under. -/
def fileNameOf (p : Process E σ) (js : InterpreterId) (file : Option String) : String :=
  file.getD (p.settingsOf js).defaultFileName

theorem handleOf_congr (same : q.interpreters = p.interpreters) (js : InterpreterId) :
    q.handleOf js = p.handleOf js := by
  unfold handleOf interpreter?
  rw [same]

theorem fileNameOf_congr (same : q.interpreters = p.interpreters) (js : InterpreterId)
    (file : Option String) : q.fileNameOf js file = p.fileNameOf js file := by
  unfold fileNameOf settingsOf interpreter?
  rw [same]

/-- A thread that asks for an evaluation comes to the engine, if the interpreter is there and its
lock is open. -/
theorem Run.evaluates (run : Run host (start E memory programs) past p)
    (at_t : p.threads[t.index]?
      = some ⟨.host (.ask (.use js (.evaluate source file)) next), below, active⟩)
    (live : (p.handleOf js).isNull = false) (found : p.directory.get? (p.handleOf js) = some e)
    (hx : p.entry? e = some x) (free : x.Open t) {c : E.Context} (engine : x.engine = some c) :
    let op := Operation.evaluate source (p.fileNameOf js file)
    ∃ direct q, (direct = true → x.gate = some t) ∧ (direct = false → x.gate = none) ∧
      Stands host p t e (x.entered t)
        ⟨.work ⟨⟨e, op, next⟩, direct, none⟩ (begin E op none c), below, active⟩ p.memory q := by
  intro op
  obtain ⟨q₁, finding⟩ : ∃ q₁, Stands host p t e x
      ⟨.find (p.handleOf js) (.evaluate source (some (p.fileNameOf js file))) next, below, active⟩
      p.memory q₁ := by
    cases file with
    | none => exact (stands_self hx at_t).passes (.useDefault rfl live)
    | some file => exact (stands_self hx at_t).passes (.use rfl live nofun)
  obtain ⟨q₂, locking⟩ := finding.passes (.findEvaluate rfl (finding.directory ▸ found))
  obtain ⟨past', onwards, -⟩ := locking.alone
  obtain ⟨direct, q, has, free', working⟩ :=
    (run.trans onwards).begins (u := ⟨e, op, next⟩) locking.at_t locking.entry free engine
  rw [locking.memory] at working
  exact ⟨direct, q, has, free', locking.trans working⟩

variable {u : Underway σ} {direct : Bool} {pending : Option Binding} {c : E.Context}

/-- A call of the host that passes the gate is carried out. -/
theorem Stands.calls {target : CallTarget} {args : List ScriptValue} {i : Invocation}
    {resume : Answer → E.Context → Activity E.Context (Except BridgeFault u.operation.Result)}
    (stands : Stands host p t u.entry x
      ⟨.work ⟨u, direct, pending⟩ (.call target args c resume), below, active⟩ s q)
    (gate : x.board.route target args = .ok i) :
    ∃ q', Stands host p t u.entry { x with engine := some c }
      ⟨.host (host.invoke i.binding.object i.signature.name i.args),
        ⟨⟨u, direct, pending⟩, i, resume⟩ :: below, u.entry :: active⟩ s q' := by
  rw [← boardOf_eq stands.entry] at gate
  exact stands.steps (fun x => { x with engine := some c }) [i.event]
    ((Act.workCall (w := ⟨u, direct, pending⟩) rfl gate).step?_eq stands.at_t)

/-- The engine goes on with what came of a call. -/
theorem Stands.resumes {body : Program σ MethodResult} {r : Except Panic MethodResult}
    {i : Invocation} {e' : EntryId}
    {resume : Answer → E.Context → Activity E.Context (Except BridgeFault u.operation.Result)}
    (stands : Stands host p t u.entry x
      ⟨.host body, ⟨⟨u, direct, pending⟩, i, resume⟩ :: below, e' :: active⟩ s q)
    (result : body.result? = some r) (engine : x.engine = some c) :
    ∃ q', Stands host p t u.entry x
      ⟨.work ⟨u, direct, pending⟩ (resume (i.reply (outcomeOf r)) c), below, active⟩ s q' := by
  have there : (q.entry? u.entry).bind (·.engine) = some c := by
    rw [stands.entry]
    exact engine
  let call : HostCall E.Context σ := ⟨⟨u, direct, pending⟩, i, resume⟩
  have act : Act host q t ⟨.host body, call :: below, e' :: active⟩ q
      ⟨.work call.work (call.resume (call.invocation.reply (outcomeOf r)) c), below, active⟩ :=
    .resume rfl result rfl there
  exact stands.passes act

/-- An operation that has nothing to publish comes to its result. -/
theorem Stands.concludes {r : Except BridgeFault u.operation.Result}
    (stands : Stands host p t u.entry x
      ⟨.work ⟨u, direct, pending⟩ (.done r c), below, active⟩ s q)
    (nothing : pending = none ∨ ∃ fault, r = .error fault) (unclosed : x.closing = false) :
    ∃ q', Stands host p t u.entry (x.exited direct c) ⟨.host (u.back r), below, active⟩ s q' := by
  obtain ⟨q₁, publishing⟩ := stands.quits
  obtain ⟨q₂, finishing⟩ := publishing.passes
    (.publishNothing (w := ⟨u, direct, pending⟩) rfl (.inr nothing))
  exact finishing.finishes unclosed

end Evaluation

end Process

end Drawbridge
