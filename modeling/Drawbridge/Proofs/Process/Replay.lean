import Drawbridge.Proofs.Process.Binds

/-!
# Operations alone

What becomes of an interpreter on which one thread does one thing after another.  A `Bench` has what
operations see of the interpreter, those that wait for the host, and what was returned so far; a
`Mark` is what the thread does next, and `Bench.step` what comes of it.  `Serves` is one turn of a
thread, a close or a whole operation with all that is done from within it, and `Serial` are turns
one after another.
-/

namespace Drawbridge

open Process (begin outcomeOf)

variable {C : Type} {E : Engine} {σ : Type}

/-! ## What operations see and change -/

/-- What operations see of an interpreter, and change. -/
structure Desk (C : Type) where
  engine : Option C
  board : Switchboard
  /-- closed while operations were under way -/
  closing : Bool

/-- What operations see of an entry, without its lock and counts. -/
def Entry.desk (x : Entry C) : Desk C := ⟨x.engine, x.board, x.closing⟩

namespace Desk

/-- The engine is let go. -/
def release (d : Desk C) : Desk C := ⟨none, d.board.clear, false⟩

/-- The binding that an operation is to publish, if it is a bind, is made. -/
def prepare (d : Desk C) : Operation → Option Binding × Desk C
  | .bind name roster object =>
    (some (d.board.prepare name roster object).1,
      { d with board := (d.board.prepare name roster object).2 })
  | _ => (none, d)

/-- A binding is published if the operation succeeded. -/
def publish {α : Type} (d : Desk C) : Option Binding → Except BridgeFault α → Desk C
  | some b, .ok _ => { d with board := d.board.commit b }
  | _, _ => d

end Desk

/-! ## One thing after another -/

/-- What a thread does on an interpreter next. -/
inductive Mark where
  /-- it begins an operation -/
  | use (operation : Operation)
  /-- the method that was called last is at its end -/
  | answer (outcome : Outcome)
  | close

/-- An operation that waits for the host. -/
structure Suspended (C : Type) where
  operation : Operation
  pending : Option Binding
  invocation : Invocation
  resume : Answer → C → Activity C (Except BridgeFault operation.Result)

/-- What an operation has returned. -/
structure Returned where
  operation : Operation
  result : Except BridgeFault operation.Result

/-- An interpreter that one thread uses at a time, with what is under way on it and what has come of
it. -/
structure Bench (C : Type) where
  desk : Desk C
  /-- the operations under way, innermost first -/
  frames : List (Suspended C)
  /-- what was returned, the latest last -/
  returned : List Returned

namespace Bench

/-- An interpreter on which nothing is under way. -/
def clean (d : Desk C) : Bench C := ⟨d, [], []⟩

/-- The engine comes to another context. -/
def setEngine (b : Bench C) (c : C) : Bench C := { b with desk := { b.desk with engine := some c } }

/-- What an operation was to publish is published, if it has succeeded. -/
def publish {α : Type} (b : Bench C) (pending : Option Binding) (r : Except BridgeFault α) :
    Bench C :=
  { b with desk := b.desk.publish pending r }

/-- The outermost operation on a closed interpreter lets the engine go as it ends. -/
def settle (b : Bench C) : Bench C :=
  if b.frames.isEmpty && b.desk.closing then { b with desk := b.desk.release } else b

/-- An operation returns. -/
def give (b : Bench C) (op : Operation) (r : Except BridgeFault op.Result) : Bench C :=
  { b with returned := b.returned ++ [⟨op, r⟩] }

/-- An operation ends. -/
def conclude (b : Bench C) (op : Operation) (pending : Option Binding)
    (r : Except BridgeFault op.Result) : Bench C :=
  ((b.publish pending r).settle).give op r

/-- The engine works for an operation until it waits for the host or is at the end. -/
def advance (op : Operation) (pending : Option Binding) :
    Activity C (Except BridgeFault op.Result) → Bench C → Bench C
  | .done r c, b => (b.setEngine c).conclude op pending r
  | .call target args c resume, b =>
    match b.desk.board.route target args with
    | .error fault => advance op pending (resume (.error fault) c) b
    | .ok i => { b.setEngine c with frames := ⟨op, pending, i, resume⟩ :: b.frames }

/-- What becomes of an interpreter as a thread does this, up to where it waits for the host or is
done. -/
def step (E : Engine) (b : Bench E.Context) : Mark → Bench E.Context
  | .use op =>
    match b.desk.engine with
    | none => b.give op (.error .closed)
    | some c =>
      advance op (b.desk.prepare op).1 (begin E op (b.desk.prepare op).1 c)
        { b with desk := (b.desk.prepare op).2 }
  | .answer outcome =>
    match b.frames, b.desk.engine with
    | f :: frames, some c =>
      advance f.operation f.pending (f.resume (f.invocation.reply outcome) c) { b with frames }
    | _, _ => b
  | .close =>
    if b.frames.isEmpty then { b with desk := b.desk.release }
    else { b with desk := { b.desk with closing := true } }

/-- What becomes of an interpreter as threads do these things, one after another. -/
def replay (E : Engine) (b : Bench E.Context) (marks : List Mark) : Bench E.Context :=
  marks.foldl (step E) b

@[simp] theorem replay_nil (b : Bench E.Context) : b.replay E [] = b := rfl

theorem replay_cons (b : Bench E.Context) (m : Mark) (marks : List Mark) :
    b.replay E (m :: marks) = (b.step E m).replay E marks := rfl

theorem replay_concat (b : Bench E.Context) (marks : List Mark) (m : Mark) :
    b.replay E (marks ++ [m]) = (b.replay E marks).step E m := by
  simp [replay]

/-! ## Results of operations -/

/-- What operations under way may return satisfies `P`, and what was returned does. -/
structure Fine (P : Returned → Prop) (b : Bench C) : Prop where
  frames : ∀ f ∈ b.frames, ∀ answer c r, (f.resume answer c).Yields r → P ⟨f.operation, r⟩
  returned : ∀ x ∈ b.returned, P x
  engine : b.frames ≠ [] → b.desk.engine.isSome

variable {P : Returned → Prop} {b : Bench C}

theorem frames_conclude (b : Bench C) (op : Operation) (pending : Option Binding)
    (r : Except BridgeFault op.Result) : (b.conclude op pending r).frames = b.frames := by
  unfold conclude settle
  split_ifs <;> rfl

theorem returned_conclude (b : Bench C) (op : Operation) (pending : Option Binding)
    (r : Except BridgeFault op.Result) :
    (b.conclude op pending r).returned = b.returned ++ [⟨op, r⟩] := by
  unfold conclude settle
  split_ifs <;> rfl

end Bench

theorem Desk.engine_publish {α : Type} (d : Desk C) (pending : Option Binding)
    (r : Except BridgeFault α) : (d.publish pending r).engine = d.engine := by
  cases pending <;> cases r <;> rfl

namespace Bench

variable {P : Returned → Prop} {b : Bench C}

theorem engine_conclude {op : Operation} {pending : Option Binding}
    {r : Except BridgeFault op.Result} (inner : b.frames ≠ []) :
    (b.conclude op pending r).desk.engine = b.desk.engine := by
  have inner : b.frames.isEmpty = false := by simpa using inner
  have key : (b.conclude op pending r).desk = b.desk.publish pending r := by
    unfold conclude settle
    rw [if_neg (by simp [publish, inner])]
    rfl
  rw [key, Desk.engine_publish]

theorem Fine.advance {op : Operation} {pending : Option Binding}
    {a : Activity C (Except BridgeFault op.Result)} (frames : ∀ f ∈ b.frames, ∀ answer c r,
      (f.resume answer c).Yields r → P ⟨f.operation, r⟩) (returned : ∀ x ∈ b.returned, P x)
    (yields : ∀ r, a.Yields r → P ⟨op, r⟩) : (advance op pending a b).Fine P := by
  induction a with
  | done r c =>
    unfold Bench.advance
    refine ⟨?_, ?_, fun h => ?_⟩
    · rw [frames_conclude]
      exact frames
    · rw [returned_conclude]
      intro x hx
      rcases List.mem_append.1 hx with hx | hx
      · exact returned x hx
      · rw [List.mem_singleton.1 hx]
        exact yields r (.done r c)
    · rw [frames_conclude] at h
      rw [engine_conclude h]
      rfl
  | call target args c resume ih =>
    unfold Bench.advance
    split
    · exact ih _ _ fun r h => yields r (.call h)
    · refine ⟨fun f hf => ?_, returned, fun _ => rfl⟩
      rcases List.mem_cons.1 hf with rfl | hf
      · exact fun answer c r h => yields r (.call h)
      · exact frames f hf

/-- On an interpreter that is there only what the engine may come to is returned. -/
theorem Fine.step {b : Bench E.Context} (fine : b.Fine P) (engine : b.desk.engine.isSome)
    (yields : ∀ op pending c r, (begin E op pending c).Yields r → P ⟨op, r⟩) (m : Mark) :
    (b.step E m).Fine P := by
  obtain ⟨c, hc⟩ := Option.isSome_iff_exists.1 engine
  cases m with
  | use op =>
    simp only [Bench.step, hc]
    exact .advance fine.frames fine.returned (yields op _ c)
  | answer outcome =>
    cases hf : b.frames with
    | nil =>
      simp only [Bench.step, hf]
      exact fine
    | cons f frames =>
      have suspended := fine.frames
      rw [hf] at suspended
      simp only [Bench.step, hf, hc]
      exact .advance (fun g hg => suspended g (List.mem_cons_of_mem _ hg)) fine.returned
        fun r h => suspended f (List.mem_cons_self ..) _ _ r h
  | close =>
    unfold Bench.step
    split_ifs with outer
    · refine ⟨fine.frames, fine.returned, fun h => ?_⟩
      exact absurd (List.isEmpty_iff.1 outer) h
    · exact ⟨fine.frames, fine.returned, fun _ => engine⟩

end Bench

theorem Activity.Yields.of_map {α β : Type} {f : α → β} {x : Activity C α} {b : β}
    (yields : (x.map f).Yields b) : ∃ a, f a = b := by
  induction x with
  | done a c =>
    cases yields
    exact ⟨a, rfl⟩
  | call target args c resume ih =>
    cases yields with
    | call rest => exact ih _ _ rest

/-- No engine says that the interpreter is closed. -/
theorem ne_closed_of_yields {op : Operation} {pending : Option Binding} {c : E.Context}
    {r : Except BridgeFault op.Result} (yields : (begin E op pending c).Yields r) :
    r ≠ .error .closed := by
  cases op with
  | evaluate source file =>
    obtain ⟨a, rfl⟩ := Activity.Yields.of_map yields
    cases a <;> nofun
  | bind name roster object =>
    cases pending with
    | none =>
      cases yields
      nofun
    | some b =>
      obtain ⟨a, rfl⟩ := Activity.Yields.of_map yields
      cases a <;> nofun
  | collect =>
    cases yields
    nofun

/-! ## Turns -/

/-- Who has a turn on an interpreter, and for what. -/
inductive Holder (σ : Type) where
  | use (t : ThreadId) (u : Underway σ)
  | close (t : ThreadId)

/-- A turn that is over, with what it returned. -/
inductive Turn (σ : Type) where
  | use (t : ThreadId) (u : Underway σ) (r : Except BridgeFault u.operation.Result)
  | close (t : ThreadId)

/-- What the turn begins with. -/
def Holder.mark : Holder σ → Mark
  | use _ u => .use u.operation
  | close _ => .close

/-- Who had the turn, and for what. -/
def Turn.holder : Turn σ → Holder σ
  | use t u _ => .use t u
  | close t => .close t

/-- The thread that had the turn. -/
def Turn.thread : Turn σ → ThreadId
  | use t _ _ | close t => t

/-- What a turn returns comes last of what is returned in it. -/
def Turn.Gives : Turn σ → List Returned → Prop
  | use _ u r, returned => returned.getLast? = some ⟨u.operation, r⟩
  | close _, returned => returned = []

/-- These marks are one whole turn: the host is waited for at each of them but the first. -/
def Whole (E : Engine) (d : Desk E.Context) (marks : List Mark) : Prop :=
  ∀ earlier m later, marks = earlier ++ m :: later → earlier ≠ [] →
    ((Bench.clean d).replay E earlier).frames ≠ []

/-- A turn on an interpreter that nobody else uses. -/
structure Serves (E : Engine) (d : Desk E.Context) (turn : Turn σ) (marks : List Mark)
    (returned : List Returned) (d' : Desk E.Context) : Prop where
  first : marks.head? = some turn.holder.mark
  whole : Whole E d marks
  replayed : (Bench.clean d).replay E marks = ⟨d', [], returned⟩
  gives : turn.Gives returned

/-- Turns one after another. -/
inductive Serial (E : Engine) (d : Desk E.Context) :
    List (Turn σ × List Mark × List Returned) → Desk E.Context → Prop
  | nil : Serial E d [] d
  | snoc {turns d' turn marks returned d''} (serial : Serial E d turns d')
      (serves : Serves E d' turn marks returned d'') :
    Serial E d (turns ++ [(turn, marks, returned)]) d''

section Turns

variable {d d' : Desk E.Context} {t : ThreadId} {u : Underway σ}
  {r : Except BridgeFault u.operation.Result} {turn : Turn σ} {marks : List Mark}
  {returned : List Returned}

theorem whole_nil (d : Desk E.Context) : Whole E d [] := by
  intro earlier m later h
  simp at h

theorem Whole.concat (whole : Whole E d marks) (m : Mark)
    (waits : marks ≠ [] → ((Bench.clean d).replay E marks).frames ≠ []) :
    Whole E d (marks ++ [m]) := by
  intro earlier m' later h nonempty
  rcases split_concat h with ⟨-, rfl, -⟩ | ⟨rest, -, before⟩
  · exact waits nonempty
  · exact whole earlier m' rest before nonempty

/-- What comes to its end at the first mark is over with it. -/
theorem Whole.eq_singleton {m : Mark} (whole : Whole E d (m :: marks))
    (ended : ((Bench.clean d).step E m).frames = []) : marks = [] := by
  cases marks with
  | nil => rfl
  | cons m' marks => exact absurd ended (whole [m] m' marks rfl nofun)

theorem Serves.exists_cons (serves : Serves E d turn marks returned d') :
    ∃ rest, marks = turn.holder.mark :: rest :=
  List.head?_eq_some_iff.1 serves.first

/-- A turn on an interpreter whose engine is gone changes nothing, and is told so. -/
theorem Serves.of_gone (serves : Serves E d turn marks returned d') (gone : d.engine = none) :
    d'.engine = none ∧ ∀ {t u r}, turn = .use t u r → r = .error .closed ∧ d' = d := by
  obtain ⟨rest, rfl⟩ := serves.exists_cons
  have replayed := serves.replayed
  cases turn with
  | use t u r =>
    have step : (Bench.clean d).step E (.use u.operation)
        = (Bench.clean d).give u.operation (.error .closed) := by
      simp [Bench.step, Bench.clean, gone]
    obtain rfl := serves.whole.eq_singleton (m := .use u.operation) (by rw [step]; rfl)
    rw [Bench.replay_cons, Bench.replay_nil, Turn.holder, Holder.mark, step] at replayed
    obtain ⟨rfl, -, rfl⟩ := Bench.mk.inj replayed
    refine ⟨gone, fun {t' u' r'} h => ?_⟩
    obtain ⟨rfl, rfl, h⟩ := Turn.use.inj h
    obtain rfl := eq_of_heq h
    have gives : some (Returned.mk u.operation (.error .closed)) = some ⟨u.operation, r⟩ :=
      serves.gives
    exact ⟨(eq_of_heq (Returned.mk.inj (Option.some.inj gives)).2).symm, rfl⟩
  | close t =>
    obtain rfl := serves.whole.eq_singleton (m := .close) rfl
    obtain ⟨rfl, -, -⟩ := Bench.mk.inj replayed
    exact ⟨rfl, nofun⟩

/-- As long as the engine is there no operation is told that the interpreter is closed. -/
theorem Serves.ne_closed (serves : Serves E d (.use t u r) marks returned d')
    (engine : d.engine.isSome) : r ≠ .error .closed := by
  have fine (earlier later : List Mark) (split : marks = earlier ++ later) :
      ((Bench.clean d).replay E earlier).Fine fun x => x.result ≠ .error .closed := by
    induction earlier using List.reverseRecOn generalizing later with
    | nil => exact ⟨nofun, nofun, nofun⟩
    | append_singleton earlier m ih =>
      have before := ih (m :: later) (by rw [split, List.append_assoc]; rfl)
      rw [Bench.replay_concat]
      refine before.step ?_ (fun _ _ _ _ => ne_closed_of_yields) m
      rcases eq_or_ne earlier [] with rfl | nonempty
      · exact engine
      · refine before.engine (serves.whole earlier m later ?_ nonempty)
        rw [split, List.append_assoc]
        rfl
  have last := (fine marks [] (List.append_nil _).symm).returned ⟨u.operation, r⟩
  rw [serves.replayed] at last
  exact last (List.mem_of_getLast? serves.gives)

theorem Serves.closed_iff (serves : Serves E d (.use t u r) marks returned d') :
    r = .error .closed ↔ d.engine = none := by
  refine ⟨fun closed => ?_, fun gone => ((serves.of_gone gone).2 rfl).1⟩
  by_contra engine
  exact serves.ne_closed (Option.isSome_iff_ne_none.2 engine) closed

variable {turns turns' : List (Turn σ × List Mark × List Returned)}

theorem Serial.of_concat {x : Turn σ × List Mark × List Returned}
    (serial : Serial E d (turns ++ [x]) d') :
    ∃ d₁, Serial E d turns d₁ ∧ Serves E d₁ x.1 x.2.1 x.2.2 d' := by
  generalize hall : turns ++ [x] = all at serial
  cases serial with
  | nil => simp at hall
  | snoc serial serves =>
    obtain ⟨rfl, h⟩ := List.append_inj' hall rfl
    obtain rfl := List.singleton_inj.1 h
    exact ⟨_, serial, serves⟩

theorem Serial.of_append (serial : Serial E d (turns ++ turns') d') :
    ∃ d₁, Serial E d turns d₁ ∧ Serial E d₁ turns' d' := by
  induction turns' using List.reverseRecOn generalizing d' with
  | nil => exact ⟨d', by simpa using serial, .nil⟩
  | append_singleton turns' last ih =>
    rw [← List.append_assoc] at serial
    obtain ⟨d₂, before, serves⟩ := serial.of_concat
    obtain ⟨d₁, first, rest⟩ := ih before
    exact ⟨d₁, first, rest.snoc serves⟩

theorem Serial.gone (serial : Serial E d turns d') (gone : d.engine = none) :
    d'.engine = none := by
  induction serial with
  | nil => exact gone
  | snoc serial serves ih => exact (serves.of_gone ih).1

/-- Wherever turns are cut in two, all operations after the cut are told that the interpreter is
closed if the engine was let go before it, and otherwise none before the cut. -/
theorem Serial.cut (serial : Serial E d (turns ++ turns') d') :
    ∃ d₁, Serial E d turns d₁ ∧ Serial E d₁ turns' d' ∧
      (d₁.engine = none → ∀ t u r, .use t u r ∈ turns'.map (·.1) → r = .error .closed) ∧
      (d₁.engine ≠ none → ∀ t u r, .use t u r ∈ turns.map (·.1) → r ≠ .error .closed) := by
  obtain ⟨d₁, first, second⟩ := serial.of_append
  refine ⟨d₁, first, second, fun gone t u r h => ?_, fun there t u r h => ?_⟩
  · obtain ⟨⟨turn, marks, returned⟩, hmem, rfl⟩ := List.mem_map.1 h
    obtain ⟨earlier, later, rfl⟩ := List.append_of_mem hmem
    rw [← List.singleton_append, ← List.append_assoc] at second
    obtain ⟨d₂, upTo, -⟩ := second.of_append
    obtain ⟨d₃, before, serves⟩ := upTo.of_concat
    exact serves.closed_iff.2 (before.gone gone)
  · obtain ⟨⟨turn, marks, returned⟩, hmem, rfl⟩ := List.mem_map.1 h
    obtain ⟨earlier, later, rfl⟩ := List.append_of_mem hmem
    rw [← List.singleton_append, ← List.append_assoc] at first
    obtain ⟨d₂, upTo, rest⟩ := first.of_append
    obtain ⟨d₃, before, serves⟩ := upTo.of_concat
    exact fun closed => there (rest.gone (serves.of_gone (serves.closed_iff.1 closed)).1)

theorem Serial.of_singleton (serial : Serial E d [(turn, marks, returned)] d') :
    Serves E d turn marks returned d' := by
  rw [← List.nil_append [(turn, marks, returned)]] at serial
  obtain ⟨d₁, before, serves⟩ := serial.of_concat
  generalize hall : ([] : List (Turn σ × List Mark × List Returned)) = all at before
  cases before with
  | nil => exact serves
  | snoc => simp at hall

/-- An operation that is over at once, and is no bind, does to the engine what it does in whichever
turn it is made. -/
theorem Serves.of_done {c c' : E.Context} {r' : Except BridgeFault u.operation.Result}
    (serves : Serves E d (.use t u r) marks returned d') (engine : d.engine = some c)
    (unclosed : d.closing = false) (plain : d.prepare u.operation = (none, d))
    (work : begin E u.operation none c = .done r' c') :
    r = r' ∧ d' = { d with engine := some c' } := by
  obtain ⟨rest, rfl⟩ := serves.exists_cons
  have step : (Bench.clean d).step E (.use u.operation)
      = ⟨{ d with engine := some c' }, [], [⟨u.operation, r'⟩]⟩ := by
    simp [Bench.step, Bench.clean, engine, plain, work, Bench.advance, Bench.conclude,
      Bench.publish, Bench.setEngine, Bench.settle, Bench.give, Desk.publish, unclosed]
  obtain rfl := serves.whole.eq_singleton (m := .use u.operation) (by rw [step])
  obtain ⟨rfl, -, rfl⟩ := Bench.mk.inj (step.symm.trans serves.replayed)
  have gives : some (Returned.mk u.operation r') = some ⟨u.operation, r⟩ := serves.gives
  exact ⟨(eq_of_heq (Returned.mk.inj (Option.some.inj gives)).2).symm, rfl⟩

/-- A script that answers at once does to the engine what it does, in whichever turn it is run. -/
theorem Serves.evaluated {e : EntryId} {source file : String}
    {back : Except BridgeFault String → Program σ MethodResult} {r : Except BridgeFault String}
    {c c' : E.Context} {text : String}
    (serves : Serves E d (.use t ⟨e, .evaluate source file, back⟩ r) marks returned d')
    (engine : d.engine = some c) (evaluates : E.evaluate source file c = .done (.ok text) c')
    (unclosed : d.closing = false) : r = .ok text ∧ d' = { d with engine := some c' } := by
  refine serves.of_done engine unclosed rfl ?_
  show (E.evaluate source file c).map _ = _
  rw [evaluates]
  rfl

/-- Each of any number of updates counts. -/
theorem Serial.updates {e : EntryId} {source : String} {c : E.Context}
    {f : E.Context → E.Context} {text : E.Context → String} (serial : Serial E d turns d')
    (engine : d.engine = some c) (unclosed : d.closing = false)
    (update : ∀ file c, E.evaluate source file c = .done (.ok (text c)) (f c))
    (all : ∀ turn ∈ turns.map (·.1), ∃ t file back r,
      turn = .use t ⟨e, .evaluate source file, back⟩ r) :
    d' = { d with engine := some (f^[turns.length] c) } := by
  induction serial with
  | nil =>
    cases d
    cases engine
    rfl
  | @snoc turns d₁ turn marks returned d₂ serial serves ih =>
    obtain rfl := ih fun turn h => all turn (by simp [h])
    obtain ⟨t, file, back, r, rfl⟩ := all turn (by simp)
    rw [(serves.evaluated rfl (update file _) unclosed).2, List.length_append,
      List.length_singleton, Function.iterate_succ_apply']

end Turns

end Drawbridge
