import Drawbridge.Proofs.Process.Leaving

/-!
# Scopes

A scope makes an interpreter, runs a body with it and closes it on every way out
(`Program.withInterpreter`).  A body runs outside the engine of its own interpreter, since the calls
of the host that it is inside of were there before the interpreter was made
(`Run.outside_of_unmade`); so nothing is under way on the entry any more as the scope is over, and
the engine has been released (`scope_closes`).
-/

namespace Drawbridge

variable {E : Engine} {σ α β : Type}

/-! ## The parts of a scope -/

namespace Program

/-- What is left of a scope once it has asked for its interpreter. -/
def entering (body : InterpreterId → Program σ α) :
    Except BridgeFault InterpreterId → Program σ (Except Panic (Except BridgeFault α))
  | .error fault => done (.ok (.error fault))
  | .ok js => (body js).attempt.bind (leaving js)

theorem attempt_onExit (x : Program σ α) (js : InterpreterId) :
    ((x.onExit (do close js; drop js)).bind fun a =>
        done (.ok a : Except BridgeFault α)).attempt = x.attempt.bind (leaving js) := by
  induction x with
  | done a => rfl
  | panic payload => rfl
  | read next ih => exact congrArg read (funext ih)
  | write memory next ih => exact congrArg (write memory) ih
  | ask request next ih => exact congrArg (ask request) (funext ih)

/-- A scope asks for its interpreter, and with one that it got runs its body to the end of it,
whichever it is, and leaves. -/
theorem attempt_withInterpreter (settings : Settings) (body : InterpreterId → Program σ α) :
    (withInterpreter settings body).attempt = (create settings).bind (entering body) := by
  refine congrArg (ask (.create settings)) (funext fun reply => ?_)
  cases reply with
  | error fault => rfl
  | ok js => exact attempt_onExit (body js) js

/-- What comes after a program, past which its panics go. -/
def andThen (k : α → Program σ β) : Except Panic α → Program σ β
  | .ok a => k a
  | .error payload => panic payload

theorem bind_eq_attempt (x : Program σ α) (k : α → Program σ β) :
    x.bind k = x.attempt.bind (andThen k) := by
  induction x with
  | done a => rfl
  | panic payload => rfl
  | read next ih => exact congrArg read (funext ih)
  | write memory next ih => exact congrArg (write memory) ih
  | ask request next ih => exact congrArg (ask request) (funext ih)

/-- The program does not panic. -/
def Calm : Program σ α → Prop
  | done _ => True
  | panic _ => False
  | read next => ∀ s, (next s).Calm
  | write _ next => next.Calm
  | ask _ next => ∀ reply, (next reply).Calm

theorem calm_attempt (x : Program σ α) : x.attempt.Calm := by
  induction x with
  | done | panic => trivial
  | read next ih => exact ih
  | write memory next ih => exact ih
  | ask request next ih => exact ih

end Program

namespace Process

variable {host : Host σ} {p p' q r : Process E σ} {t : ThreadId} {th th' : Thread E.Context σ}
  {past : List (Moment E σ)} {l : Station E σ} {js : InterpreterId} {e : EntryId}

/-! ## Scopes -/

/-- No thread but `t` is inside the engine of an entry or closes it. -/
def IdleBesides (p : Process E σ) (t : ThreadId) (e : EntryId) : Prop :=
  ∀ {s : ThreadId} {th}, s ≠ t → p.threads[s.index]? = some th →
    th.inside e = 0 ∧ th.leaving e = 0 ∧ ∀ h, th.vacating? = some h → p.directory.get? h ≠ some e

/-- A scope that got no interpreter: its thread asks for one in the step from `a` to `a'`, and does
nothing else. -/
structure Refused (host : Host σ) (l : Station E σ) (p : Process E σ) (past : List (Moment E σ))
    (q a a' : Process E σ) (before after : List (Moment E σ)) : Prop where
  waits : Waits host l.thread p before a
  next : a.step? host l.thread = some a'
  same : a'.entries = a.entries ∧ a'.directory = a.directory ∧ a'.interpreters = a.interpreters
  then_waits : Waits host l.thread a' after q
  parts : past = after ++ ⟨a, l.thread⟩ :: before

/-- A scope that is over in `q`: its interpreter was made in the step from `a` to `a'`, and its body
came to the end `r` in `b`. -/
structure Scope (host : Host σ) (l : Station E σ) (body : InterpreterId → Program σ α)
    (outer : Except Panic (Except BridgeFault α) → Program σ MethodResult) (p : Process E σ)
    (past : List (Moment E σ)) (q : Process E σ) (r : Except Panic α) (js : InterpreterId)
    (e : EntryId) (a a' b : Process E σ) (before within after : List (Moment E σ)) : Prop where
  waits : Waits host l.thread p before a
  next : a.step? host l.thread = some a'
  made : Made a a' js e
  body : Course host l (fun r => (Program.leaving js r).bind outer) a' (body js).attempt within b
    (.done r)
  exit : Run host b after q
  parts : past = after ++ (within ++ ⟨a, l.thread⟩ :: before)
  /-- of what the thread does once the body is at its end nothing concerns others -/
  spares : SparesOf host l.thread js e after
  alone : (∀ m ∈ after, m.thread = l.thread) → Spares js e b q
  closed : a'.handleOf js ≠ .null ∧ q.handleOf js = .null
  released : q.IdleBesides l.thread e →
    q.directory.get? (a'.handleOf js) = none ∧
      ∃ x, q.entry? e = some x ∧ x.engine = none ∧ x.releases = 1

/-- What comes of a scope that is over, and what of its body. -/
inductive Over (host : Host σ) (l : Station E σ) (settings : Settings)
    (body : InterpreterId → Program σ α)
    (outer : Except Panic (Except BridgeFault α) → Program σ MethodResult) (p : Process E σ)
    (past : List (Moment E σ)) (q : Process E σ) : Except Panic (Except BridgeFault α) → Prop
  | refused {a a' before after} (engine : E.create? settings = none)
      (refused : Refused host l p past q a a' before after) :
    Over host l settings body outer p past q (.ok (.error .outOfMemory))
  | closed {r js e a a' b before within after} (engine : (E.create? settings).isSome)
      (scope : Scope host l body outer p past q r js e a a' b before within after) :
    Over host l settings body outer p past q (r.map .ok)

section Scope

variable {memory : σ} {programs : List (Program σ MethodResult)} {earlier : List (Moment E σ)}
  {settings : Settings} {body : InterpreterId → Program σ α}
  {outer : Except Panic (Except BridgeFault α) → Program σ MethodResult}

/-- The engine of a closed interpreter has been released once its thread is back where it made
it, and no other has anything under way. -/
theorem Run.released_of_station (run : Run host (start E memory programs) past q)
    (room : q.directory.slots.size ≤ 2 ^ 32) (closed : Closed past ⟨e.index⟩)
    (there : (q.entry? e).isSome) {program : Program σ MethodResult} (here : l.At program q)
    (outside : l.calls.countP (fun call => call.work.underway.entry = e) = 0)
    (others : q.IdleBesides l.thread e) :
    q.directory.times e = 0 ∧ ∃ x, q.entry? e = some x ∧ x.engine = none ∧ x.releases = 1 := by
  obtain ⟨x, hx⟩ := Option.isSome_iff_exists.1 there
  have idle : q.Idle e := by
    intro t th at_t
    by_cases own : t = l.thread
    · subst own
      obtain rfl := Option.some.inj (at_t.symm.trans here)
      exact ⟨(Nat.zero_add _).trans outside, rfl, nofun⟩
    · exact others own at_t
  have released := ((run.releases_iff room hx).2 idle).1 closed
  have key := (run.kept e).entry hx
  refine ⟨?_, x, hx, ?_, released⟩
  · have := key.once
    omega
  · rw [← Option.not_isSome_iff_eq_none, key.engine]
    omega

theorem Closed.append {past' : List (Moment E σ)} (closed : Closed past' js)
    (past : List (Moment E σ)) : Closed (past' ++ past) js := by
  obtain ⟨m, hm, closes⟩ := closed
  exact ⟨m, List.mem_append_left _ hm, closes⟩

/-- A thread at its station is not inside an engine that is yet to be made. -/
theorem Run.outside_of_unmade (run : Run host (start E memory programs) past p)
    {program : Program σ MethodResult} (here : l.At program p) (unmade : p.entry? e = none) :
    l.calls.countP (fun call => call.work.underway.entry = e) = 0 := by
  have held := le_total (Thread.holds e) here
  rw [((run.kept e).unused unmade).2.1] at held
  simpa using held

/-- A request for an interpreter makes it together with its entry. -/
theorem made_of_create {a a' : Process E σ} {next} {c : E.Context}
    (sizes : a.interpreters.size = a.entries.size)
    (asks : l.At (.ask (.create settings) next) a) (engine : E.create? settings = some c)
    (step : a.step? host l.thread = some a') :
    Made a a' ⟨a.interpreters.size⟩ ⟨a.interpreters.size⟩ := by
  have h := (Act.create rfl engine).eq_of_step? asks step
  subst h
  refine ⟨⟨interpreter?_eq_none_iff.2 (Nat.le_refl _), isSome_interpreter?_iff.2 ?_⟩,
    entry?_eq_none_iff.2 (Nat.le_of_eq sizes.symm), isSome_entry?_iff.2 ?_⟩
  · show a.interpreters.size < (a.interpreters.push _).size
    simp
  · show a.interpreters.size < (a.entries.push _).size
    simp [sizes]

/-- A scope that is over got no interpreter, or has closed it and released its engine. -/
theorem Course.scope {result : Except Panic (Except BridgeFault α)}
    (reached : Run host (start E memory programs) earlier p)
    (course : Course host l outer p (Program.withInterpreter settings body).attempt past q
      (.done result))
    (room : q.directory.slots.size ≤ 2 ^ 32) :
    Over host l settings body outer p past q result := by
  rw [Program.attempt_withInterpreter] at course
  obtain ⟨reply, m, past₁, past₂, creating, rest, rfl⟩ := course.of_bind_done
  rcases creating.of_request (.create settings) with
    ⟨h, -⟩ | ⟨_, a, a', z, before, away, after, h, exchange⟩
  · cases h
  obtain rfl := Program.done.inj h
  obtain ⟨answer, rfl, rfl⟩ := exchange.at_once rfl
  obtain ⟨waits, asks, next, -, -, back, -, then_waits, rfl⟩ := exchange
  cases engine : E.create? settings with
  | none =>
    rw [engine] at answer
    obtain rfl : reply = .error .outOfMemory := answer
    obtain ⟨done, then_waits'⟩ := rest.of_done
    obtain rfl := Program.done.inj done
    refine .refused engine ⟨waits, next, ?_, then_waits.trans then_waits', by simp⟩
    rw [(Act.createFailed rfl engine).eq_of_step? asks next]
    exact ⟨rfl, rfl, rfl⟩
  | some c =>
    rw [engine] at answer
    obtain rfl : reply = .ok ⟨a.interpreters.size⟩ := answer
    obtain ⟨r, b, past₃, past₄, working, leaving, rfl⟩ := rest.of_bind_done
    have toA := reached.trans waits.run
    have made := made_of_create (toA.sizes rfl) asks engine next
    have toB := (Run.refl.step next).trans (then_waits.run.trans working.run)
    have living := then_waits.run.trans (working.run.trans leaving.run)
    obtain ⟨hresult, null, spares, closed⟩ := leaving.leaves (toA.trans toB) room
      ((then_waits.run.trans working.run).isSome_interpreter? made.interpreter.2)
    have whole := (toA.trans toB).trans leaving.run
    have live := (toA.handleOf_life next made .refl).1
    subst hresult
    refine .closed (Option.isSome_of_eq_some engine) ⟨waits, next, made,
      (Course.of_waits ?_ then_waits).trans working, leaving.run, by simp, spares,
      spares.run leaving.run, ⟨live, (Handle.isNull_iff _).1 null⟩, fun others => ?_⟩
    · rwa [← Program.bind_assoc]
    · have still := living.isSome_interpreter? made.interpreter.2
      have there : (q.entry? ⟨a.interpreters.size⟩).isSome :=
        isSome_entry?_iff.2 (whole.sizes rfl ▸ isSome_interpreter?_iff.1 still)
      obtain ⟨unlisted, released⟩ := whole.released_of_station room (closed.append _) there
        leaving.there (toA.outside_of_unmade asks made.entry.1) others
      refine ⟨?_, released⟩
      have owned := (toA.step next).owned_handleOf
        (Bool.eq_false_iff.2 (mt (Handle.isNull_iff _).1 live)) living room
      refine owned.get?.resolve_left fun found => ?_
      exact absurd unlisted (Nat.ne_of_gt (SlotMap.times_pos found))

/-- A thread at the end of what comes after a program is not within the program. -/
theorem not_within {x : Program σ α} {rest : α → Program σ MethodResult}
    {program : Program σ MethodResult} {result : Except Panic MethodResult}
    (here : l.At program q) (ended : program.result? = some result) :
    ¬ Within host l rest p x past q := by
  intro within
  cases within with
  | @here y course more =>
    have same := Option.some.inj (course.there.symm.trans here)
    obtain rfl := Stage.host.inj (congrArg Thread.stage same)
    cases y with
    | done | panic => cases more
    | _ => cases ended
  | away _ _ _ _ _ off =>
    rw [here.home] at off
    cases off

theorem Course.calm {x y : Program σ α} {rest : α → Program σ MethodResult}
    (course : Course host l rest p x past q y) (calm : x.Calm) : y.Calm := by
  induction course with
  | refl => exact calm
  | wait _ _ _ ih | write _ _ ih => exact ih
  | read _ _ ih | answered _ _ _ ih | returned _ _ _ _ _ _ ih => exact ih _

/-- A scope closes its interpreter on every way out, by a result of its body or by a panic, and
wherever it is run. In every run its thread is within the scope or has come to the end of it. By
then it got no interpreter, or it has closed the one that it got and passes on what came of the
body, as `Over` says. From the end of the body on the thread gets there on its own, as long as no
other has the lock of the entry. -/
theorem scope_closes (reached : Run host (start E memory programs) earlier p)
    (here : l.At ((Program.withInterpreter settings body).attempt.bind outer) p) :
    (∀ past q, Run host p past q →
      Within host l outer p (Program.withInterpreter settings body).attempt past q ∨
        ∃ z result past₁ past₂, past = past₂ ++ past₁ ∧ Run host z past₂ q ∧
          Course host l outer p (Program.withInterpreter settings body).attempt past₁ z
            (.done result)) ∧
    (∀ past q result,
      Course host l outer p (Program.withInterpreter settings body).attempt past q
        (.done result) →
      q.directory.slots.size ≤ 2 ^ 32 → Over host l settings body outer p past q result) ∧
    ∀ past q js r,
      Course host l outer p (Program.withInterpreter settings body).attempt past q
        (.leaving js r) →
      q.directory.slots.size ≤ 2 ^ 32 → q.FreeBesides l.thread ⟨js.index⟩ →
      Reaches host l (outer (r.map .ok)) 6 q := by
  refine ⟨fun past q run => (run.course here).imp_right ?_,
    fun past q result course room => course.scope reached room,
    fun past q js r course room others =>
      (reached.trans course.run).leaving_returns room course.there others⟩
  rintro ⟨z, y, ending, past₁, past₂, course, ended, rest, parts⟩
  have calm := course.calm (Program.calm_attempt _)
  cases y with
  | done result => exact ⟨z, result, past₁, past₂, parts, rest, course⟩
  | panic payload => exact calm.elim
  | _ => cases ended

end Scope

/-- Each method of this host runs a scope, the body of which closes its interpreter and panics. -/
def lodging : Host Unit where
  facets _ _ := ⟨fun _ => true, fun _ => true⟩
  invoke _ _ _ :=
    (Program.withInterpreter default fun js => do
      Program.close js
      Program.panic .other).bind fun (_ : Except BridgeFault Unit) => .done (.ok .void)

/-- A scope in a method of the host leaves nothing of its interpreter, though its body panics while
the script that called the method is under way on another. -/
theorem scope_closes_method :
    ∃ (l : Station .relay Unit) (p q : Process .relay Unit),
      l.calls.length = 1 ∧ visit.follow lodging (List.replicate 17 ⟨0⟩) = some p ∧
      p.follow lodging (List.replicate 8 ⟨0⟩) = some q ∧ l.At (.panic .other) q ∧
      ∃ z ∈ instants (p.moments lodging (List.replicate 8 ⟨0⟩)) q, ∃ js e x,
        p.interpreter? js = none ∧ z.handleOf js = .null ∧ z.entry? e = some x ∧
        x.engine = none ∧ x.releases = 1 := by
  obtain ⟨l, p, q, thread, inside, reached, here, followed, there, alone, room⟩ :
      ∃ (l : Station .relay Unit) (p q : Process .relay Unit),
        l.thread = ⟨0⟩ ∧ l.calls.length = 1 ∧
        visit.follow lodging (List.replicate 17 ⟨0⟩) = some p ∧
        l.At (lodging.invoke ⟨0⟩ "shut" []) p ∧
        p.follow lodging (List.replicate 8 ⟨0⟩) = some q ∧ l.At (.panic .other) q ∧
        p.threads.size = 1 ∧ q.directory.slots.size ≤ 2 ^ 32 :=
    ⟨⟨⟨0⟩, _, _⟩, _, _, rfl, rfl, rfl, rfl, rfl, rfl, rfl, by decide⟩
  rw [lodging, Program.bind_eq_attempt] at here
  refine ⟨l, p, q, inside, reached, followed, there, ?_⟩
  obtain ⟨progress, ending, -⟩ := scope_closes (.of_follow reached) here
  rcases progress _ q (.of_follow followed) with
    within | ⟨z, result, past₁, past₂, parts, rest, course⟩
  · exact absurd within (not_within there rfl)
  · cases ending past₁ z result course (Nat.le_trans rest.size_le room) with
    | refused engine => cases engine
    | @closed r js e a a' b before within after engine scope =>
      have others : z.IdleBesides l.thread e := by
        intro s th other at_s
        have bound := (Array.getElem?_eq_some_iff.1 at_s).1
        rw [course.run.size_threads, alone, Nat.lt_one_iff] at bound
        rw [thread] at other
        exact absurd (congrArg ThreadId.mk bound) other
      have unmade := scope.waits.run.interpreter?_eq_none scope.made.interpreter.1
      obtain ⟨-, x, hx, engine, releases⟩ := scope.released others
      refine ⟨z, ?_, js, e, x, unmade, scope.closed.2, hx, engine, releases⟩
      have within := rest.mem_instants
      rw [parts]
      simp only [instants, List.mem_cons, List.map_append, List.mem_append] at within ⊢
      tauto

end Process

end Drawbridge
