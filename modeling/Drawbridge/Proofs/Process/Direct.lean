import Drawbridge.Proofs.Process.Leaving
import Drawbridge.Proofs.Process.Unwinding

/-!
# Direct runs

In a thread that goes on alone the work of the engine comes to what `Activity.run` makes of it, the
calls of the host going through the switchboard as it stands (`Stands.works`).  So the thread
carries a bind through, whether the engine takes the object in or fails (`Run.carries_bind`,
`Run.carries_failed_bind`), and an evaluation (`Run.carries_evaluate`).  The one thread of a process
may make an interpreter, close it again (`Arrives.leaves`) and come to the end of its program, where
it stays (`Arrives.runThread_eq`).
-/

namespace Drawbridge

variable {C : Type} {E : Engine} {σ τ : Type}

theorem Activity.run_map {α β : Type} (f : α → β) (a : Activity C α)
    (host : CallTarget → List ScriptValue → σ → Answer × σ) (s : σ) :
    (a.map f).run host s = (f (a.run host s).1, (a.run host s).2) := by
  induction a generalizing s with
  | done r c => rfl
  | call target args c resume ih => exact ih _ _ _

/-- On a memory that is the view of a state, the methods of the host come to their ends on their
own, as `play` says. -/
def Host.Plays (host : Host σ) (view : τ → σ) (play : Invocation → τ → Outcome × τ) : Prop :=
  ∀ i s, ∃ body r, Program.Leads (view s)
      (host.invoke i.binding.object i.signature.name i.args) (view (play i s).2) body ∧
    body.result? = some r ∧ Process.outcomeOf r = (play i s).1

namespace Process

variable {host : Host σ} {p q r : Process E σ} {t : ThreadId} {th th' : Thread E.Context σ}
  {e : EntryId} {x : Entry E.Context} {s s' : σ}
  {below : List (HostCall E.Context σ)} {active : List EntryId}

/-! ## Arrivals -/

/-- From `p` thread `t` has come to `q` alone. It is `th` there, and the memory is `s`. -/
structure Arrives (host : Host σ) (p : Process E σ) (t : ThreadId) (th : Thread E.Context σ) (s : σ)
    (q : Process E σ) : Prop where
  alone : Alone host t p q
  at_t : q.threads[t.index]? = some th
  memory : q.memory = s

theorem Arrives.act {q' : Process E σ} (arrives : Arrives host p t th s q)
    (act : Act host q t th q' th') (same : q'.memory = q.memory) :
    Arrives host p t th' s (q'.setThread t th') where
  alone := arrives.alone.step (act.step?_eq arrives.at_t)
  at_t := getElem?_setThread_self (act.threads ▸ arrives.at_t)
  memory := same.trans arrives.memory

theorem Arrives.leads {body body' : Program σ MethodResult}
    (arrives : Arrives host p t ⟨.host body, below, active⟩ s q)
    (leads : Program.Leads s body s' body') :
    ∃ q', Arrives host p t ⟨.host body', below, active⟩ s' q' := by
  induction leads generalizing q with
  | refl => exact ⟨q, arrives⟩
  | @read s next s' body rest ih =>
    have reading := arrives.act (.read rfl) rfl
    rw [arrives.memory] at reading
    exact ih reading
  | @write s₀ s next s' body rest ih =>
    have act : Act host q t ⟨.host (.write s next), below, active⟩ { q with memory := s }
        ⟨.host next, below, active⟩ := .write rfl
    exact ih ⟨arrives.alone.step (act.step?_eq arrives.at_t),
      getElem?_setThread_self arrives.at_t, rfl⟩

theorem Arrives.stands (arrives : Arrives host p t th s q)
    (stands : Stands host q t e x th' s' r) : Arrives host p t th' s' r :=
  ⟨arrives.alone.trans stands.alone, stands.at_t, stands.memory⟩

theorem Alone.runThread_eq (alone : Alone host t p q) :
    ∃ k, ∀ n, p.runThread host t (k + n) = q.runThread host t n := by
  obtain ⟨past, run, own⟩ := alone
  induction run with
  | refl => exact ⟨0, fun n => by rw [Nat.zero_add]⟩
  | @step past q r s run next ih =>
    obtain ⟨k, same⟩ := ih fun m hm => own m (List.mem_cons_of_mem _ hm)
    obtain rfl : s = t := own _ (List.mem_cons_self ..)
    refine ⟨k + 1, fun n => ?_⟩
    rw [Nat.add_assoc, Nat.add_comm 1 n, same, runThread, next]

/-- A thread whose own program is at its end has no step. -/
theorem step?_eq_none {body : Program σ MethodResult} {r : Except Panic MethodResult}
    (at_t : q.threads[t.index]? = some ⟨.host body, [], active⟩) (ended : body.result? = some r) :
    q.step? host t = none := by
  unfold step?
  rw [at_t]
  exact stepThread?_ended rfl ended

/-- A thread that comes to the end of its program alone stays there, however long it goes on. -/
theorem Arrives.runThread_eq {body : Program σ MethodResult} {r : Except Panic MethodResult}
    (arrives : Arrives host p t ⟨.host body, [], active⟩ s q) (ended : body.result? = some r) :
    ∃ k, ∀ n, k ≤ n → p.runThread host t n = q := by
  obtain ⟨k, same⟩ := arrives.alone.runThread_eq
  have still (n : Nat) : q.runThread host t n = q := by
    cases n with
    | zero => rfl
    | succ n => rw [runThread, step?_eq_none arrives.at_t ended]
  refine ⟨k, fun n hn => ?_⟩
  rw [← Nat.add_sub_cancel' hn, same, still]

/-! ## The work of the engine -/

section Work

variable {view : τ → σ} {play : Invocation → τ → Outcome × τ} {z z' : τ} {u : Underway σ}
  {direct : Bool} {pending : Option Binding} {c : E.Context}

/-- The engine comes to its result by calls that go through the switchboard. -/
theorem Stands.works (plays : host.Plays view play)
    {a : Activity E.Context (Except BridgeFault u.operation.Result)}
    (stands : Stands host p t u.entry x ⟨.work ⟨u, direct, pending⟩ a, below, active⟩ (view z) q)
    {result : Except BridgeFault u.operation.Result}
    (ran : a.run (x.board.dispatch play) z = (result, c, z')) :
    ∃ engine q', Stands host p t u.entry { x with engine }
      ⟨.work ⟨u, direct, pending⟩ (.done result c), below, active⟩ (view z') q' := by
  induction a generalizing x z q with
  | done r c₀ =>
    obtain ⟨rfl, rest⟩ := Prod.mk.inj ran
    obtain ⟨rfl, rfl⟩ := Prod.mk.inj rest
    exact ⟨x.engine, q, stands⟩
  | call target args c₀ resume ih =>
    rw [Activity.run, Switchboard.dispatch] at ran
    cases gate : x.board.route target args with
    | error fault =>
      have routed : (q.boardOf u.entry).route target args = .error fault := by
        rw [boardOf_eq stands.entry, gate]
      obtain ⟨q₁, refused⟩ := stands.passes (.workRefused (w := ⟨u, direct, pending⟩) rfl routed)
      simp only [gate] at ran
      exact ih _ _ refused ran
    | ok i =>
      obtain ⟨body, r, leads, ended, outcome⟩ := plays i z
      obtain ⟨q₁, called⟩ := stands.calls gate
      obtain ⟨q₂, back⟩ := called.leads leads
      obtain ⟨q₃, resumed⟩ := back.resumes ended (c := c₀) rfl
      simp only [gate] at ran
      rw [outcome] at resumed
      obtain ⟨engine, q₄, finished⟩ := ih _ _ resumed ran
      exact ⟨engine, q₄, finished⟩

/-- The engine has come to a binding to publish. -/
theorem Stands.publishes {b : Binding} {y : u.operation.Result}
    (stands : Stands host p t u.entry x
      ⟨.work ⟨u, direct, some b⟩ (.done (.ok y) c), below, active⟩ s q)
    (unclosed : x.closing = false) :
    ∃ q', Stands host p t u.entry
      (Entry.exited direct c { x with board := x.board.commit b })
      ⟨.host (u.back (.ok y)), below, active⟩ s q' := by
  obtain ⟨q₁, publishing⟩ := stands.quits
  obtain ⟨q₂, finishing⟩ := publishing.steps (fun x => { x with board := x.board.commit b }) _
    ((Act.publish (w := ⟨u, direct, some b⟩) rfl publishing.entry rfl rfl).step?_eq
      publishing.at_t)
  exact finishing.finishes unclosed

end Work

/-! ## Operations -/

section Operations

variable {memory : σ} {programs : List (Program σ MethodResult)} {past : List (Moment E σ)}
  {js : InterpreterId} {c c' : E.Context}

theorem Run.unclosed_of_found (run : Run host (start E memory programs) past p) {h : Handle}
    (found : p.directory.get? h = some e) (hx : p.entry? e = some x) : x.closing = false := by
  obtain ⟨y, -, hy, -, unclosed⟩ := run.exists_entry_of_found found
  obtain rfl := Option.some.inj (hy.symm.trans hx)
  exact unclosed

/-- A thread that asks for a bind comes to the engine, if the object passes the contract. -/
theorem Run.binds {name : String} {contract : Contract} {object : ObjectId} {roster : Roster}
    {next : Except BridgeFault Unit → Program σ MethodResult}
    (run : Run host (start E memory programs) past p)
    (at_t : p.threads[t.index]?
      = some ⟨.host (.ask (.use js (.bind name contract object)) next), below, active⟩)
    (live : (p.handleOf js).isNull = false) (found : p.directory.get? (p.handleOf js) = some e)
    (hx : p.entry? e = some x) (free : x.Open t) (engine : x.engine = some c)
    (named : name.isEmpty = false)
    (accepted : contract.check (host.facets p.memory object) = .ok roster) :
    let op := Operation.bind name roster object
    ∃ direct q, (direct = true → x.gate = some t) ∧ (direct = false → x.gate = none) ∧
      Stands host p t e (x.begun t op)
        ⟨.work ⟨⟨e, op, next⟩, direct, x.pending op⟩ (begin E op (x.pending op) c),
          below, active⟩ p.memory q := by
  intro op
  obtain ⟨q₁, finding⟩ := (stands_self hx at_t).passes (.use rfl live nofun)
  rw [← finding.memory] at accepted
  obtain ⟨q₂, locking⟩ :=
    finding.passes (.findBind rfl (finding.directory ▸ found) named accepted)
  obtain ⟨past', onwards, -⟩ := locking.alone
  obtain ⟨direct, q, has, free', working⟩ :=
    (run.trans onwards).begins (u := ⟨e, op, next⟩) locking.at_t locking.entry free engine
  rw [locking.memory] at working
  exact ⟨direct, q, has, free', locking.trans working⟩

section Bind

variable {view : τ → σ} {play : Invocation → τ → Outcome × τ} (plays : host.Plays view play)
  {z z' : τ} {name : String} {contract : Contract} {object : ObjectId} {roster : Roster}
  {next : Except BridgeFault Unit → Program σ MethodResult}
  (run : Run host (start E memory programs) past p)
  (at_t : p.threads[t.index]?
    = some ⟨.host (.ask (.use js (.bind name contract object)) next), below, active⟩)
  (live : (p.handleOf js).isNull = false) (found : p.directory.get? (p.handleOf js) = some e)
  (hx : p.entry? e = some x) (free : x.Open t) (engine : x.engine = some c)
  (named : name.isEmpty = false)
  (accepted : contract.check (host.facets p.memory object) = .ok roster)
  (viewed : p.memory = view z)

include plays run at_t live found hx free engine named accepted viewed

/-- The engine comes to a result for an object that passes the contract. -/
theorem Run.installs {result : Except Failure Unit}
    (ran : (E.install (x.board.prepare name roster object).1 c).run
      ((x.board.prepare name roster object).2.dispatch play) z = (result, c', z')) :
    let op := Operation.bind name roster object
    ∃ direct engine q, (direct = true → x.gate = some t) ∧ (direct = false → x.gate = none) ∧
      Stands host p t e { x.begun t op with engine }
        ⟨.work ⟨⟨e, op, next⟩, direct, x.pending op⟩ (.done (installed result) c'),
          below, active⟩ (view z') q := by
  intro op
  obtain ⟨direct, q₁, within, outer, working⟩ :=
    run.binds at_t live found hx free engine named accepted
  rw [viewed] at working
  have ran' : (begin E op (x.pending op) c).run ((x.begun t op).board.dispatch play) z
      = (installed result, c', z') := by
    show ((E.install (x.board.prepare name roster object).1 c).map installed).run _ z = _
    rw [Activity.run_map]
    exact congrArg (fun r => (installed r.1, r.2)) ran
  obtain ⟨engine', q, done⟩ := Stands.works (u := ⟨e, op, next⟩) plays working ran'
  exact ⟨direct, engine', q, within, outer, done⟩

/-- A bind is carried through, if the engine takes the object in. -/
theorem Run.carries_bind
    (ran : (E.install (x.board.prepare name roster object).1 c).run
      ((x.board.prepare name roster object).2.dispatch play) z = (.ok (), c', z')) :
    let b := (x.board.prepare name roster object).1
    let board := (x.board.prepare name roster object).2.commit b
    ∃ q, Stands host p t e { x with engine := some c', board }
      ⟨.host (next (.ok ())), below, active⟩ (view z') q := by
  intro b board
  obtain ⟨direct, engine', q, within, outer, done⟩ :=
    run.installs plays at_t live found hx free engine named accepted viewed ran
  have unclosed := run.unclosed_of_found found hx
  let op := Operation.bind name roster object
  obtain ⟨q', back⟩ := Stands.publishes (u := ⟨e, op, next⟩) done unclosed
  refine ⟨q', ?_⟩
  rw [← exited_begun op free ((run.kept e).entry hx).locked unclosed within outer]
  exact back

/-- A bind that the engine fails is carried through, and nothing is published. -/
theorem Run.carries_failed_bind {failure : Failure}
    (ran : (E.install (x.board.prepare name roster object).1 c).run
      ((x.board.prepare name roster object).2.dispatch play) z = (.error failure, c', z')) :
    let board := (x.board.prepare name roster object).2
    ∃ q, Stands host p t e { x with engine := some c', board }
      ⟨.host (next (.error (.engine failure.message))), below, active⟩ (view z') q := by
  intro board
  obtain ⟨direct, engine', q, within, outer, done⟩ :=
    run.installs plays at_t live found hx free engine named accepted viewed ran
  have unclosed := run.unclosed_of_found found hx
  let op := Operation.bind name roster object
  obtain ⟨q', back⟩ := Stands.concludes (u := ⟨e, op, next⟩) done (.inr ⟨_, rfl⟩) unclosed
  refine ⟨q', ?_⟩
  rw [← exited_begun op free ((run.kept e).entry hx).locked unclosed within outer]
  exact back

end Bind

/-- An evaluation is carried through: the engine comes to its result by calls that go through the
switchboard. -/
theorem Run.carries_evaluate {view : τ → σ} {play : Invocation → τ → Outcome × τ} {z z' : τ}
    (plays : host.Plays view play) {source name : String}
    {next : Except BridgeFault String → Program σ MethodResult}
    (run : Run host (start E memory programs) past p)
    (at_t : p.threads[t.index]?
      = some ⟨.host (.ask (.use js (.evaluate source (some name))) next), below, active⟩)
    (live : (p.handleOf js).isNull = false) (found : p.directory.get? (p.handleOf js) = some e)
    (hx : p.entry? e = some x) (free : x.Open t) (engine : x.engine = some c)
    (viewed : p.memory = view z) {result : Except Failure String}
    (ran : (E.evaluate source name c).run (x.board.dispatch play) z = (result, c', z')) :
    ∃ q, Stands host p t e { x with engine := some c' }
      ⟨.host (next (evaluated name result)), below, active⟩ (view z') q := by
  obtain ⟨direct, q₁, within, outer, working⟩ := run.evaluates at_t live found hx free engine
  rw [viewed] at working
  have ran' : (begin E (.evaluate source name) none c).run (x.board.dispatch play) z
      = (evaluated name result, c', z') := by
    show ((E.evaluate source name c).map (evaluated name)).run _ z = _
    rw [Activity.run_map, ran]
  have unclosed := run.unclosed_of_found found hx
  obtain ⟨engine', q₂, finished⟩ :=
    Stands.works (u := ⟨e, .evaluate source name, next⟩) plays working ran'
  obtain ⟨q₃, back⟩ := finished.concludes (.inl rfl) unclosed
  refine ⟨q₃, ?_⟩
  rw [← exited_begun (.evaluate source name) free ((run.kept e).entry hx).locked unclosed within
    outer]
  exact back

end Operations

/-! ## Interpreters come and go -/

section Interpreters

variable {js : InterpreterId} {c : E.Context}

theorem arrives_start (body : Program σ MethodResult) (memory : σ) :
    Arrives host (start E memory [body]) ⟨0⟩ ⟨.host body, [], []⟩ memory (start E memory [body]) :=
  ⟨.refl _, rfl, rfl⟩

variable (host) in
/-- The one thread of a process asks for an interpreter for which there is no engine. -/
theorem exists_refused {settings : Settings} (memory : σ)
    (next : Except BridgeFault InterpreterId → Program σ MethodResult)
    (unmade : E.create? settings = none) :
    ∃ q, Arrives host (start E memory [.ask (.create settings) next]) ⟨0⟩
      ⟨.host (next (.error .outOfMemory)), [], []⟩ memory q :=
  ⟨_, (arrives_start _ memory).act (.createFailed rfl unmade) rfl⟩

variable (host) in
/-- The one thread of a process asks for an interpreter, and gets the first one. -/
theorem exists_created {settings : Settings} (memory : σ)
    (next : Except BridgeFault InterpreterId → Program σ MethodResult)
    (made : E.create? settings = some c) :
    ∃ q, Arrives host (start E memory [.ask (.create settings) next]) ⟨0⟩
        ⟨.host (next (.ok ⟨0⟩)), [], []⟩ memory q ∧
      (q.handleOf ⟨0⟩).isNull = false ∧ q.directory.get? (q.handleOf ⟨0⟩) = some ⟨0⟩ ∧
      q.entry? ⟨0⟩ = some (.fresh c) := by
  let given := SlotMap.empty.insert (⟨0⟩ : EntryId)
  have live : (Handle.ofBits given.1.toBits).isNull = false := by decide
  have found : given.2.get? (Handle.ofBits given.1.toBits) = some ⟨0⟩ := by decide
  exact ⟨_, (arrives_start _ memory).act (.create rfl made) rfl, live, found, rfl⟩

theorem Arrives.drops {back : Program σ MethodResult}
    (arrives : Arrives host p t ⟨.host (.ask (.drop js) fun _ => back), below, active⟩ s q) :
    ∃ q', Arrives host p t ⟨.host back, below, active⟩ s q' := by
  let th : Thread E.Context σ := ⟨.host (.ask (.drop js) fun _ => back), below, active⟩
  have asks : th.stage = .host (.ask (.drop js) fun _ => back) := rfl
  have act : Act host q t _ _ _ := .drop asks
  refine ⟨_, arrives.act act ?_⟩
  split_ifs <;> rfl

/-- At the end of a scope the thread gets through alone, if nothing is under way on the entry. -/
theorem Arrives.leaves {α : Type} {result : Except Panic α}
    {outer : Except Panic (Except BridgeFault α) → Program σ MethodResult}
    (arrives : Arrives host p t ⟨.host ((Program.leaving js result).bind outer), below, active⟩ s q)
    (live : (q.handleOf js).isNull = false) (found : q.directory.get? (q.handleOf js) = some e)
    (hx : q.entry? e = some x) (free : x.Open t) (idle : x.depth = 0) :
    ∃ q', Arrives host p t ⟨.host (outer (result.map .ok)), below, active⟩ s q' := by
  let back : Program σ MethodResult := .ask (.drop js) fun _ => outer (result.map .ok)
  have closing : Arrives host p t ⟨.host (.ask (.close js) fun _ => back), below, active⟩ s q :=
    arrives
  have vacating := closing.act (.close rfl live) rfl
  have locking := vacating.act (.vacate rfl found) rfl
  have destroying := locking.act (.lockToClose rfl hx free) rfl
  have unlocking := destroying.act (.destroy rfl (entry?_modify (Entry.grab t) hx) idle) rfl
  have dropping : Arrives host p t ⟨.host back, below, active⟩ s _ :=
    unlocking.act (.unlockClosed rfl) rfl
  exact dropping.drops

end Interpreters

end Process

end Drawbridge
