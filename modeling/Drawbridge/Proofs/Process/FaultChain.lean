import Drawbridge.Proofs.Process.Unwinding

/-!
# Faults through nested evaluations

A script calls a method of the host, which evaluates another script, and so on; the last method
fails.  Each script leaves the error uncaught, and each method fails with what it was told.
`Level.reports` follows one evaluation from its beginning, `Chain.reports` all of them by induction
on how deep they are nested.  The host is told of each method and of the first failure, in order
(`nested_fault_reported`), and no interpreter is worse off.
-/

namespace Drawbridge

/-- An error is left uncaught. -/
def surface : Answer → List Binding → Activity (List Binding) (Except Failure String)
  | .ok _, bindings => .done (.ok "") bindings
  | .error fault, bindings =>
    .done (.error (.thrown (some ("Error: " ++ fault.message)) none)) bindings

/-- Scripts call the first method of what was bound last, and leave errors uncaught. -/
def Engine.candid : Engine where
  Context := List Binding
  create? _ := some []
  evaluate _ _ bindings :=
    match bindings with
    | [] => .done (.ok "") []
    | b :: _ => .call ⟨b, 0⟩ [] bindings surface
  install b bindings := .done (.ok ()) (b :: bindings)
  collect := id
  proxies := id

namespace Process

variable {E : Engine} {σ : Type}

/-- One evaluation, and the call of the host that its script makes. -/
structure Level extends Site where
  js : InterpreterId
  entry : EntryId
  source : String
  file : Option String

namespace Level

/-- The request that begins the evaluation. -/
def request (k : Level) : Request := .use k.js (.evaluate k.source k.file)

/-- The method that is called. -/
def body (host : Host σ) (k : Level) : Program σ MethodResult :=
  host.invoke k.call.binding.object k.call.signature.name k.call.args

/-- The script calls the method and leaves an error uncaught. -/
def Surfaces (sound : E.Context → Prop) (board : Switchboard) (k : Level) : Prop :=
  ∀ c, sound c → ∃ target args c' resume,
    E.evaluate k.source k.name c = .call target args c' resume ∧
    board.route target args = .ok k.call ∧ sound c' ∧ Uncaught sound resume

/-- The interpreter is there, no other thread has its lock, and the script will do its call. -/
structure Ready (p : Process E σ) (t : ThreadId) (sound : EntryId → E.Context → Prop) (k : Level) :
    Prop where
  live : (p.handleOf k.js).isNull = false
  found : p.directory.get? (p.handleOf k.js) = some k.entry
  named : p.fileNameOf k.js k.file = k.name
  free : ∀ x, p.entry? k.entry = some x → x.Open t
  intact : ∀ x c, p.entry? k.entry = some x → x.engine = some c → sound k.entry c
  surfaces : k.Surfaces (sound k.entry) (p.boardOf k.entry)

end Level

/-- With a memory the methods of these evaluations do what brings the host to the next one, or, the
last one, to its failure, which has this text. -/
inductive Chain (host : Host σ) : σ → Level → List Level → String → Prop
  | failing {s s' k body text} (leads : Program.Leads s (k.body host) s' body)
      (fails : body.FailsWith text) : Chain host s k [] text
  | evaluating {s s' k k' rest text next}
      (leads : Program.Leads s (k.body host) s' (.ask k'.request next))
      (failure : ∀ fault s, ∃ s',
        Program.Leads s (next (.error fault)) s' (.done (.error fault.message)))
      (inner : Chain host s' k' rest text) :
    Chain host s k (k' :: rest) text

variable {host : Host σ} {p q r : Process E σ} {t : ThreadId} {e : EntryId} {x : Entry E.Context}
  {sound : EntryId → E.Context → Prop}

/-- In `q` all is as in `p`, but for what scripts have done to engines that were there. -/
def Restored (sound : EntryId → E.Context → Prop) : Process E σ → Process E σ → Prop :=
  Worked sound fun _ x y => y = { x with engine := y.engine }

theorem Restored.trans (first : Restored sound p q) (second : Restored sound q r) :
    Restored sound p r :=
  Worked.trans first second fun {_ x y z} (same : y = _) (same' : z = _) =>
    show z = { x with engine := z.engine } by rw [same', same]

theorem Restored.of_stands {th : Thread E.Context σ} {s : σ} (stands : Stands host p t e x th s q)
    (hx : p.entry? e = some x) : Restored sound p q :=
  stands.worked hx rfl (Or.inl rfl) fun _ _ _ => rfl

section Level

variable {k k' : Level} {th : Thread E.Context σ} {s : σ}

/-- What was ready stays so while a thread goes into an engine and calls the host. -/
theorem Level.Ready.of_stands {c : E.Context} (ready : k'.Ready p t sound)
    (hx : p.entry? e = some x)
    (stands : Stands host p t e { x.entered t with engine := some c } th s q) (good : sound e c) :
    k'.Ready q t sound := by
  have handle := handleOf_congr stands.interpreters k'.js
  have names := fileNameOf_congr stands.interpreters k'.js k'.file
  have entry {y : Entry E.Context} (hy : q.entry? k'.entry = some y) :
      k'.entry = e ∧ y = { x.entered t with engine := some c } ∨ p.entry? k'.entry = some y := by
    by_cases he : k'.entry = e
    · exact Or.inl ⟨he, Option.some.inj (hy.symm.trans (he ▸ stands.entry))⟩
    · exact Or.inr (stands.others _ he ▸ hy)
  have board : q.boardOf k'.entry = p.boardOf k'.entry := by
    by_cases he : k'.entry = e
    · rw [he, boardOf_eq stands.entry, boardOf_eq hx]
      rfl
    · unfold boardOf
      rw [stands.others _ he]
  refine ⟨handle ▸ ready.live, ?_, names.trans ready.named, fun y hy => ?_,
    fun y c' hy engine => ?_, board ▸ ready.surfaces⟩
  · rw [handle, stands.directory]
    exact ready.found
  · rcases entry hy with ⟨-, rfl⟩ | hy
    · intro owner n lock
      exact (Prod.mk.inj (Option.some.inj lock)).1.symm
    · exact ready.free y hy
  · rcases entry hy with ⟨he, rfl⟩ | hy
    · rw [he, ← Option.some.inj engine]
      exact good
    · exact ready.intact y c' hy engine

variable {memory : σ} {programs : List (Program σ MethodResult)} {past : List (Moment E σ)}
  {next : Except BridgeFault String → Program σ MethodResult}
  {below : List (HostCall E.Context σ)} {active : List EntryId} {text : String}

/-- An evaluation whose script calls a method that fails is at fault, and leaves all as it was. -/
theorem Level.reports (run : Run host (start E memory programs) past p)
    (at_t : p.threads[t.index]? = some ⟨.host (.ask k.request next), below, active⟩)
    (ready : k.Ready p t sound) {P : String → Prop}
    (fails : ∀ {x c call r}, p.entry? k.entry = some x → sound k.entry c →
      Stands host p t k.entry { x.entered t with engine := some c }
        ⟨.host (k.body host), call :: below, k.entry :: active⟩ p.memory r →
      ∃ q body text, Alone host t r q ∧ Restored sound r q ∧
        q.threads[t.index]? = some ⟨.host body, call :: below, k.entry :: active⟩ ∧
        body.FailsWith text ∧ P text) :
    ∃ q text line, Alone host t p q ∧ Restored sound p q ∧ P text ∧ q.threads[t.index]?
      = some ⟨.host (next (.error (.script (k.fault text line)))), below, active⟩ := by
  obtain ⟨x, c, hx, engine, unclosed⟩ := run.exists_entry_of_found ready.found
  have free := ready.free x hx
  obtain ⟨direct, q₁, within, outer, working⟩ :=
    run.evaluates at_t ready.live ready.found hx free engine
  obtain ⟨target, args, c₁, resume, evaluates, admits, called, uncaught⟩ :=
    ready.surfaces c (ready.intact x c hx engine)
  have begins : begin E (.evaluate k.source k.name) none c
      = .call target args c₁ fun answer d => (resume answer d).map (evaluated k.name) := by
    show (E.evaluate k.source k.name c).map (evaluated k.name) = _
    rw [evaluates]
    rfl
  rw [ready.named, begins] at working
  rw [boardOf_eq hx] at admits
  let f : Floor E.Context σ := ⟨k.toSite, k.entry, k.source, next, direct, resume⟩
  obtain ⟨q₂, calling⟩ := Stands.calls (u := f.frame.work.underway) working admits
  obtain ⟨q₃, body, text, onwards, restored, at_t₃, failed, holds⟩ := fails hx called calling
  -- the entry is as it was when the method was called, but for the engine
  obtain ⟨c₂, good, hx₃⟩ : ∃ c₂, sound k.entry c₂ ∧
      q₃.entry? k.entry = some { x.entered t with engine := some c₂ } := by
    obtain ⟨y, hy, same, engine⟩ := restored.entries k.entry _ calling.entry
    rcases engine with engine | ⟨-, c₂, engine, good⟩
    · exact ⟨c₁, called, by rw [hy, same, engine]⟩
    · exact ⟨c₂, good, by rw [hy, same, engine]⟩
  have waiting : Stands host q₃ t f.entry { x.entered t with engine := some c₂ }
      ⟨.host body, f.frame :: below, k.entry :: active⟩ q₃.memory q₃ := stands_self hx₃ at_t₃
  obtain ⟨line, c₃, q₄, last, back⟩ := waiting.unwinds failed uncaught rfl good unclosed
  have locked := ((run.kept k.entry).entry hx).locked
  rw [exited_entered free locked unclosed within outer] at back
  refine ⟨q₄, text, line, (calling.alone.trans onwards).trans back.alone,
    ⟨fun e' x' hx' => ?_, ?_, ?_⟩, holds, back.at_t⟩
  · by_cases he : e' = k.entry
    · subst he
      obtain rfl := Option.some.inj (hx'.symm.trans hx)
      exact ⟨_, back.entry, rfl, Or.inr ⟨by rw [engine]; rfl, c₃, rfl, last⟩⟩
    · obtain ⟨y, hy, same⟩ := restored.entries e' x' (by rw [calling.others e' he, hx'])
      exact ⟨y, (back.others e' he).trans hy, same⟩
  · exact back.directory.trans (restored.directory.trans calling.directory)
  · exact back.interpreters.trans (restored.interpreters.trans calling.interpreters)

/-- Nested evaluations come to a fault that has the texts of all of them. -/
theorem Chain.reports {rest : List Level} (chain : Chain host s k rest text)
    (run : Run host (start E memory programs) past p) (first : p.memory = s)
    (at_t : p.threads[t.index]? = some ⟨.host (.ask k.request next), below, active⟩)
    (ready : ∀ k' ∈ k :: rest, k'.Ready p t sound) :
    ∃ q fault, Alone host t p q ∧ Restored sound p q ∧
      Reports text k.toSite (rest.map Level.toSite) fault ∧
      q.threads[t.index]? = some ⟨.host (next (.error (.script fault))), below, active⟩ := by
  induction chain generalizing p past next below active with
  | @failing s s' k body text leads fails =>
    obtain ⟨q, _, line, alone, restored, rfl, at_q⟩ := Level.reports (P := (· = text)) run at_t
      (ready k (List.mem_cons_self ..)) fun hx good stands => by
        obtain ⟨q, ending⟩ := stands.led (first ▸ leads)
        exact ⟨q, body, text, ending.alone, .of_stands ending stands.entry, ending.at_t, fails, rfl⟩
    exact ⟨q, _, alone, restored, .last, at_q⟩
  | @evaluating s s' k k' rest text next' leads failure inner ih =>
    obtain ⟨q, _, line, alone, restored, ⟨fault, rfl, within⟩, at_q⟩ :=
      Level.reports (P := fun text' => ∃ fault : ScriptFault, text' = fault.describe ∧
        Reports text k'.toSite (rest.map Level.toSite) fault) run at_t
      (ready k (List.mem_cons_self ..)) fun hx good stands => by
        -- the method comes to its own evaluation, from where the induction goes on
        obtain ⟨q₁, asking⟩ := stands.led (first ▸ leads)
        have whole := stands.trans asking
        obtain ⟨past', onwards, -⟩ := whole.alone
        obtain ⟨q₂, fault, alone, restored, within, at_t₂⟩ := ih (run.trans onwards) asking.memory
          asking.at_t fun k'' hk => (ready k'' (List.mem_cons_of_mem _ hk)).of_stands hx whole good
        -- it is told of the fault, and fails with its text
        obtain ⟨y, hy, -⟩ := restored.entries k.entry _ asking.entry
        obtain ⟨_, fails⟩ := failure (.script fault) q₂.memory
        obtain ⟨q₃, failing⟩ := (stands_self hy at_t₂).leads fails
        exact ⟨q₃, _, _, (asking.alone.trans alone).trans failing.alone,
          ((Restored.of_stands asking stands.entry).trans restored).trans (.of_stands failing hy),
          failing.at_t, .failed _, fault, rfl, within⟩
    exact ⟨q, _, alone, restored, .outer within, at_q⟩

end Level

section Start

variable {host : Host σ} {p : Process E σ} {t : ThreadId} {th : Thread E.Context σ} {memory : σ}
  {programs : List (Program σ MethodResult)} {past : List (Moment E σ)}

/-- The host is told of every failure, and of where it comes from.  Evaluations are under way one
within another, and the method that the innermost script has called fails.  Where scripts leave
errors uncaught and each method that has evaluated fails with what it is told, the outermost
evaluation comes to a fault of its script.  This names its method and the file, and has the text of
the next fault, down to the innermost with the text that the last method failed with; so the message
names all methods in order, then has this text, then the places.  The interpreters are not closed,
what they publish is the same, and no evaluation is left inside.  Where scripts just call, and
methods just evaluate, they do come to this from the beginning of the outermost evaluation, and
every entry is as it was then, but for what scripts did inside its engine. -/
theorem nested_fault_reported (sound : EntryId → E.Context → Prop)
    (run : Run host (start E memory programs) past p) (at_t : p.threads[t.index]? = some th) :
    (∀ call ∈ th.calls, ∀ source name, call.work.underway.operation = .evaluate source name →
      ∃ f : Floor E.Context σ, call = f.frame) ∧
    (∀ {k : Floor E.Context σ} {rest below body text}, th.stage = .host body →
      th.calls = (k :: rest).reverse.map Floor.frame ++ below → body.FailsWith text →
      (∀ f ∈ rest, f.Relays) → (∀ f ∈ k :: rest, f.Ready p sound) →
      ∃ q fault active, Alone host t p q ∧
        q.threads[t.index]? = some ⟨.host (k.back (.error (.script fault))), below, active⟩ ∧
        Reports text k.toSite (rest.map Floor.toSite) fault ∧ Unwound sound (k :: rest) p q) ∧
    (∀ {k rest next text}, th.stage = .host (.ask k.request next) →
      Chain host p.memory k rest text → (∀ k' ∈ k :: rest, k'.Ready p t sound) →
      ∃ q fault, Alone host t p q ∧
        q.threads[t.index]? = some { th with stage := .host (next (.error (.script fault))) } ∧
        Reports text k.toSite (rest.map Level.toSite) fault ∧ Restored sound p q) ∧
    ∀ {text k rest fault}, Reports text k rest fault → fault.file = some k.name ∧
      ∃ lines : List (Option UInt32), lines.length = rest.length ∧
        fault.message = String.join ((k :: rest).map Site.heading) ++ text
          ++ String.join (List.zipWith Site.place rest lines).reverse := by
  obtain ⟨stage, calls, active⟩ := th
  refine ⟨fun call hcall source name evaluates => run.exists_floor at_t hcall evaluates, ?_, ?_,
    fun reports => ⟨?_, reports.message_eq⟩⟩
  · rintro k rest below body text rfl rfl fails relays ready
    obtain ⟨q, fault, active', alone, unwound, reports, at_q⟩ :=
      run.unwinds at_t fails relays ready
    exact ⟨q, fault, active', alone, at_q, reports, unwound⟩
  · rintro k rest next text rfl chain ready
    obtain ⟨q, fault, alone, restored, reports, at_q⟩ := chain.reports run rfl at_t ready
    exact ⟨q, fault, alone, at_q, reports, restored⟩
  · obtain ⟨text', line, rfl⟩ := reports.exists_fault
    rfl

end Start

/-- Of an error host code makes a failure. -/
def relay : Except BridgeFault String → Program Nat MethodResult
  | .ok _ => .done (.ok .void)
  | .error fault => .done (.error fault.message)

/-- An object evaluates on the other interpreter as long as the memory tells it to, then it
panics. -/
def descent : Host Nat where
  facets _ _ := ⟨fun _ => true, fun _ => true⟩
  invoke object _ _ :=
    .read fun n =>
      match n with
      | 0 => .panic (.text "lost")
      | n + 1 =>
        .write n <|
          .ask (.use (if object = ⟨0⟩ then ⟨1⟩ else ⟨0⟩) (.evaluate "" (some "in.js"))) relay

/-- Three evaluations, the third on the interpreter of the first. -/
def descending : Process .candid Nat :=
  start .candid 2
    [.ask (.create default) fun _ => .ask (.create default) fun _ =>
      .ask (.use ⟨0⟩ (.bind "ping" ⟨"Door", false, [], [⟨"shut", [], .void⟩]⟩ ⟨0⟩)) fun _ =>
      .ask (.use ⟨1⟩ (.bind "pong" ⟨"Door", false, [], [⟨"shut", [], .void⟩]⟩ ⟨1⟩)) fun _ =>
      .ask (.use ⟨0⟩ (.evaluate "" (some "out.js"))) relay]

/-- A script of `descending` on one of its interpreters. -/
def spot (index : Nat) (file : String) : Site where
  name := file
  call := {
    binding := ⟨1, if index = 0 then "ping" else "pong", ⟨"Door", [⟨"shut", [], .void⟩]⟩, ⟨index⟩⟩
    signature := ⟨"shut", [], .void⟩
    args := [] }

/-- The evaluation of the script at a spot, with the call that it makes. -/
def rung (index : Nat) (file : String) : Level :=
  ⟨spot index file, ⟨index⟩, ⟨index⟩, "", some file⟩

/-- The evaluation of the script at a spot while it waits for the host. -/
def landing (index : Nat) (file : String) (direct : Bool) : Floor Engine.candid.Context Nat :=
  ⟨spot index file, ⟨index⟩, "", relay, direct, surface⟩

/-- The binding of an interpreter, whatever is evaluated there. -/
def only (index : Nat) : List Binding := [(spot index "").call.binding]

theorem uncaught_surface (index : Nat) : Uncaught (· = only index) surface := by
  rintro fault c - rfl
  exact ⟨none, _, rfl, rfl⟩

theorem relays_landing (index : Nat) (file : String) (direct : Bool) :
    (landing index file direct).Relays :=
  fun _ s => ⟨s, .refl⟩

section Ready

variable {p : Process .candid Nat} {x : Entry Engine.candid.Context} {index : Nat}
  (found : p.directory.get? (p.handleOf ⟨index⟩) = some ⟨index⟩) (hx : p.entry? ⟨index⟩ = some x)
  (engine : x.engine = some (only index))

include found hx engine

theorem landing_ready (file : String) (direct : Bool) :
    (landing index file direct).Ready p fun e bindings => bindings = only e.index := by
  refine ⟨⟨_, found⟩, fun y c hy given => ?_, uncaught_surface index⟩
  obtain rfl := Option.some.inj (hy.symm.trans hx)
  exact Option.some.inj (given.symm.trans engine)

theorem rung_ready (live : (p.handleOf ⟨index⟩).isNull = false) (unlocked : x.lock = none)
    (board : x.board = ⟨1, only index⟩) (file : String) :
    (rung index file).Ready p ⟨0⟩ fun e bindings => bindings = only e.index := by
  refine ⟨live, found, rfl, fun y hy => ?_, (landing_ready found hx engine file false).intact,
    fun c good => ?_⟩
  · obtain rfl := Option.some.inj (hy.symm.trans hx)
    simp [Entry.Open, unlocked]
  · have routes : (p.boardOf (rung index file).entry).route ⟨(spot index file).call.binding, 0⟩ []
        = .ok (rung index file).call := by
      show (p.boardOf ⟨index⟩).route _ _ = _
      rw [boardOf_eq hx, board, show only index = [(spot index file).call.binding] from rfl]
      simp [Switchboard.route, Switchboard.resolve, Switchboard.get?]
      rfl
    subst good
    exact ⟨_, _, _, _, rfl, routes, rfl, uncaught_surface index⟩

end Ready

/-- From the beginning of the outermost evaluation, and from the panic on. -/
theorem nested_fault_reported_descending :
    ∃ (p d q r : Process .candid Nat) (fault fault' : ScriptFault) (places places' : String),
      descending.follow descent (List.replicate 22 ⟨0⟩) = some p ∧
      p.follow descent (List.replicate 23 ⟨0⟩) = some d ∧
      Alone descent ⟨0⟩ p q ∧ fault.file = some "out.js" ∧
      fault.message = "Error: ping.shut failed: Error: pong.shut failed: " ++
        "Error: ping.shut failed: panicked: lost" ++ places ∧
      Alone descent ⟨0⟩ d r ∧ fault'.file = some "out.js" ∧
      fault'.message = "Error: ping.shut failed: Error: pong.shut failed: " ++
        "Error: ping.shut failed: panicked: lost" ++ places' ∧
      q.directory = p.directory ∧ r.directory = d.directory := by
  obtain ⟨p, x, y, d, x', y', reached, at_t, memory, hx, hy, engine, engine', found, found', live,
      live', unlocked, unlocked', board, board', falling, at_d, hx', hy', left, left', listed,
      listed'⟩ :
      ∃ (p : Process .candid Nat) (x y : Entry Engine.candid.Context) (d : Process .candid Nat)
        (x' y' : Entry Engine.candid.Context),
        descending.follow descent (List.replicate 22 ⟨0⟩) = some p ∧
        p.threads[0]? = some ⟨.host (.ask (rung 0 "out.js").request relay), [], []⟩ ∧
        p.memory = 2 ∧ p.entry? ⟨0⟩ = some x ∧ p.entry? ⟨1⟩ = some y ∧
        x.engine = some (only 0) ∧ y.engine = some (only 1) ∧
        p.directory.get? (p.handleOf ⟨0⟩) = some ⟨0⟩ ∧
        p.directory.get? (p.handleOf ⟨1⟩) = some ⟨1⟩ ∧
        (p.handleOf ⟨0⟩).isNull = false ∧ (p.handleOf ⟨1⟩).isNull = false ∧
        x.lock = none ∧ y.lock = none ∧ x.board = ⟨1, only 0⟩ ∧ y.board = ⟨1, only 1⟩ ∧
        p.follow descent (List.replicate 23 ⟨0⟩) = some d ∧
        d.threads[0]? = some ⟨.host (.panic (.text "lost")),
          [landing 0 "out.js" false, landing 1 "in.js" false,
            landing 0 "in.js" true].reverse.map Floor.frame ++ [], [⟨0⟩, ⟨1⟩, ⟨0⟩]⟩ ∧
        d.entry? ⟨0⟩ = some x' ∧ d.entry? ⟨1⟩ = some y' ∧
        x'.engine = some (only 0) ∧ y'.engine = some (only 1) ∧
        d.directory.get? (d.handleOf ⟨0⟩) = some ⟨0⟩ ∧
        d.directory.get? (d.handleOf ⟨1⟩) = some ⟨1⟩ :=
    ⟨_, _, _, _, _, _, rfl, rfl, rfl, rfl, rfl, rfl, rfl, rfl, rfl, rfl, rfl, rfl, rfl, rfl, rfl,
      rfl, rfl, rfl, rfl, rfl, rfl, rfl, rfl⟩
  have first := rung_ready found hx engine live unlocked board
  have second := rung_ready found' hy engine' live' unlocked' board'
  have chain : Chain descent p.memory (rung 0 "out.js") [rung 1 "in.js", rung 0 "in.js"]
      ("panicked: " ++ "lost") := by
    rw [memory]
    refine .evaluating (.read (.write .refl)) (fun fault s => ⟨s, .refl⟩) ?_
    refine .evaluating (.read (.write .refl)) (fun fault s => ⟨s, .refl⟩) ?_
    exact .failing (.read .refl) (.panicked "lost")
  have run : Run descent descending _ p := .of_follow reached
  have onwards : Run descent descending _ d := run.trans (.of_follow falling)
  let sound (e : EntryId) (bindings : List Binding) := bindings = only e.index
  have named : String.join ([spot 0 "out.js", spot 1 "in.js", spot 0 "in.js"].map Site.heading)
      ++ ("panicked: " ++ "lost") = "Error: ping.shut failed: Error: pong.shut failed: " ++
        "Error: ping.shut failed: panicked: lost" := by decide
  obtain ⟨-, -, begins, told⟩ := nested_fault_reported sound run (t := ⟨0⟩) at_t
  obtain ⟨q, fault, alone, -, reports, restored⟩ := begins rfl chain
    (by simp only [List.forall_mem_cons]; exact ⟨first _, second _, first _, nofun⟩)
  obtain ⟨file, lines, -, message⟩ := told reports
  have above := landing_ready listed hx' left
  have beside := landing_ready listed' hy' left'
  obtain ⟨-, unwinds, -, told⟩ := nested_fault_reported sound onwards (t := ⟨0⟩) at_d
  obtain ⟨r, fault', active, alone', -, reports', unwound⟩ := unwinds rfl rfl (.panicked "lost")
    (by simp [relays_landing])
    (by
      simp only [List.forall_mem_cons]
      exact ⟨above _ _, beside _ _, above _ _, nofun⟩)
  obtain ⟨file', lines', -, message'⟩ := told reports'
  exact ⟨p, d, q, r, fault, fault', _, _, reached, falling, alone, file, named ▸ message, alone',
    file', named ▸ message', restored.directory, unwound.directory⟩

end Process

end Drawbridge
