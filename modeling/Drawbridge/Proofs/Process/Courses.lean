import Drawbridge.Proofs.Process.Binds
import Drawbridge.Proofs.Process.Frames

/-!
# Host code in runs

Host code is done in steps, between which other threads go on, and a request may take a thread
through an engine and further host code before it has the reply.  `Course` is how far a thread has
come with a program in a run; there is nothing else that a thread at a program can do
(`Run.course`).  A program of two parts is done part by part (`Course.of_bind`).
-/

namespace Drawbridge

variable {C : Type} {E : Engine} {σ α β γ : Type}

/-! ## Programs -/

namespace Program

theorem bind_assoc (x : Program σ α) (f : α → Program σ β) (g : β → Program σ γ) :
    (x.bind f).bind g = x.bind fun a => (f a).bind g := by
  induction x with
  | done a => rfl
  | panic payload => rfl
  | read next ih => exact congrArg read (funext ih)
  | write memory next ih => exact congrArg (write memory) ih
  | ask request next ih => exact congrArg (ask request) (funext ih)

section Bind

variable {x : Program σ α} {g : α → Program σ β}

/-- A program in two parts that reads next does so in its first part, or has come to its second. -/
theorem bind_eq_read {f : σ → Program σ β} (h : x.bind g = .read f) :
    (∃ a, x = .done a) ∨ ∃ f', x = .read f' ∧ f = fun s => (f' s).bind g := by
  cases x with
  | done a => exact Or.inl ⟨a, rfl⟩
  | read f' => exact Or.inr ⟨f', rfl, (Program.read.inj h).symm⟩
  | _ => cases h

theorem bind_eq_write {memory : σ} {next : Program σ β} (h : x.bind g = .write memory next) :
    (∃ a, x = .done a) ∨ ∃ next', x = .write memory next' ∧ next = next'.bind g := by
  cases x with
  | done a => exact Or.inl ⟨a, rfl⟩
  | write memory' next' =>
    obtain ⟨rfl, rfl⟩ := Program.write.inj h
    exact Or.inr ⟨next', rfl, rfl⟩
  | _ => cases h

theorem bind_eq_ask {request : Request} {f : request.Reply → Program σ β}
    (h : x.bind g = .ask request f) :
    (∃ a, x = .done a) ∨ ∃ f', x = .ask request f' ∧ f = fun reply => (f' reply).bind g := by
  cases x with
  | done a => exact Or.inl ⟨a, rfl⟩
  | ask request' f' =>
    obtain ⟨rfl, hf⟩ := Program.ask.inj h
    exact Or.inr ⟨f', rfl, (eq_of_heq hf).symm⟩
  | _ => cases h

theorem bind_eq_done {b : β} (h : x.bind g = .done b) : ∃ a, x = .done a ∧ g a = .done b := by
  cases x with
  | done a => exact ⟨a, rfl, h⟩
  | _ => cases h

end Bind

end Program

/-- Whatever it is answered, a thread at this stage goes on with one of these programs. -/
def Stage.Backs (P : Program σ MethodResult → Prop) : Stage C σ → Prop
  | .host body => P body
  | .find _ _ back => ∀ reply, P (back reply)
  | .names _ back => ∀ reply, P (back reply)
  | .lock u | .check u | .enter u _ | .finish u _ | .unlock u _ => ∀ reply, P (u.back reply)
  | .work w _ | .leave w _ | .publish w _ => ∀ reply, P (w.underway.back reply)
  | .vacate _ back | .lockToClose _ back | .destroy _ back | .unlockClosed _ back => P back

namespace Process

variable {host : Host σ} {p p' q r : Process E σ} {t : ThreadId} {th th' : Thread E.Context σ}
  {past : List (Moment E σ)}

/-! ## Where host code is run -/

/-- Where a thread runs host code: the calls of the host that it is inside of, and the entries of
these. -/
structure Station (E : Engine) (σ : Type) where
  thread : ThreadId
  calls : List (HostCall E.Context σ)
  active : List EntryId

/-- The thread is at this stage, with the calls of the station around it. -/
def Station.On (l : Station E σ) (stage : Stage E.Context σ) (p : Process E σ) : Prop :=
  p.threads[l.thread.index]? = some ⟨stage, l.calls, l.active⟩

/-- The thread is at the station and has this program before it. -/
def Station.At (l : Station E σ) (body : Program σ MethodResult) (p : Process E σ) : Prop :=
  l.On (.host body) p

theorem Station.On.setThread {l : Station E σ} {stage : Stage E.Context σ} (on : l.On stage p)
    {stage' : Stage E.Context σ} :
    l.On stage' (p.setThread l.thread ⟨stage', l.calls, l.active⟩) := getElem?_setThread_self on

theorem Station.On.of_ne {l : Station E σ} {stage : Stage E.Context σ} (on : l.On stage p)
    (next : p.step? host t = some q) (other : t ≠ l.thread) : l.On stage q :=
  (thread_eq_of_step? next other.symm).trans on

/-- The thread runs host code with no more calls around it than at the station. -/
def Station.home (l : Station E σ) (p : Process E σ) : Bool :=
  p.threads[l.thread.index]?.any fun th => th.stage.isHost && th.calls.length == l.calls.length

theorem Station.At.home {l : Station E σ} {body : Program σ MethodResult} (here : l.At body p) :
    l.home p = true := by
  unfold Station.home
  rw [show p.threads[l.thread.index]? = _ from here]
  simp [Stage.isHost]

/-- What the thread does at the station takes it to its next stage there. -/
theorem Station.At.steps {l : Station E σ} {body body' : Program σ MethodResult}
    (here : l.At body p) (next : p.step? host l.thread = some q)
    (acts : ∀ {p' th'}, Act host p l.thread ⟨.host body, l.calls, l.active⟩ p' th' →
      th' = ⟨.host body', l.calls, l.active⟩) : l.At body' q := by
  obtain ⟨th, p', th', at_t, act, rfl⟩ := step?_eq_some_iff.1 next
  obtain rfl := Option.some.inj (at_t.symm.trans here)
  obtain rfl := acts act
  exact getElem?_setThread_self (act.threads ▸ at_t)

theorem Act.of_read (act : Act host p t th p' th') {f : σ → Program σ MethodResult}
    (stage : th.stage = .host (.read f)) : th' = { th with stage := .host (f p.memory) } := by
  cases act with
  | read stage' =>
    obtain rfl := Program.read.inj (Stage.host.inj (stage.symm.trans stage'))
    rfl
  | resume stage' result =>
    obtain rfl := Stage.host.inj (stage.symm.trans stage')
    cases result
  | _ => simp_all

theorem Act.of_write (act : Act host p t th p' th') {memory : σ} {body : Program σ MethodResult}
    (stage : th.stage = .host (.write memory body)) : th' = { th with stage := .host body } := by
  cases act with
  | write stage' =>
    obtain ⟨-, rfl⟩ := Program.write.inj (Stage.host.inj (stage.symm.trans stage'))
    rfl
  | resume stage' result =>
    obtain rfl := Stage.host.inj (stage.symm.trans stage')
    cases result
  | _ => simp_all

/-- The thread makes no step in this run. -/
structure Waits (host : Host σ) (t : ThreadId) (p : Process E σ) (past : List (Moment E σ))
    (q : Process E σ) : Prop where
  run : Run host p past q
  others : ∀ m ∈ past, m.thread ≠ t

theorem Waits.refl (p : Process E σ) : Waits host t p [] p := ⟨.refl, nofun⟩

theorem Waits.step {s : ThreadId} (waits : Waits host t p past q) (other : s ≠ t)
    (next : q.step? host s = some r) : Waits host t p (⟨q, s⟩ :: past) r where
  run := waits.run.step next
  others m hm := by
    rcases List.mem_cons.1 hm with rfl | hm
    · exact other
    · exact waits.others m hm

theorem Waits.trans {past' : List (Moment E σ)} (first : Waits host t p past q)
    (second : Waits host t q past' r) : Waits host t p (past' ++ past) r where
  run := first.run.trans second.run
  others m hm := (List.mem_append.1 hm).elim (second.others m) (first.others m)

/-! ## Answers -/

/-- What a request is answered in the step that makes it, unless it takes more. -/
def answer? (p : Process E σ) : (request : Request) → Option request.Reply
  | .create settings =>
    some (if (E.create? settings).isSome then .ok ⟨p.interpreters.size⟩ else .error .outOfMemory)
  | .use js _ => if (p.handleOf js).isNull then some (.error .closed) else none
  | .close js => if (p.handleOf js).isNull then some () else none
  | .drop _ => some ()
  | .handle js => some (p.handleOf js)
  | .settings js => some (p.settingsOf js)
  | .references object => some (p.references object)
  | .events => some p.log.reverse

theorem Act.answered (act : Act host p t th p' th') {request : Request}
    {next : request.Reply → Program σ MethodResult} (stage : th.stage = .host (.ask request next))
    {reply : request.Reply} (answer : p.answer? request = some reply) :
    th' = { th with stage := .host (next reply) } := by
  cases act with
  | resume stage' result =>
    rw [stage] at stage'
    obtain rfl := Stage.host.inj stage'
    cases result
  | createFailed stage' engine | create stage' engine =>
    obtain ⟨rfl, h⟩ := Program.ask.inj (Stage.host.inj (stage.symm.trans stage'))
    obtain rfl := eq_of_heq h
    rw [← Option.some.inj answer]
    simp [engine]
  | useClosed stage' null | closeAgain stage' null =>
    obtain ⟨rfl, h⟩ := Program.ask.inj (Stage.host.inj (stage.symm.trans stage'))
    obtain rfl := eq_of_heq h
    cases (if_pos null).symm.trans answer
    rfl
  | useDefault stage' live | use stage' live | close stage' live =>
    obtain ⟨rfl, h⟩ := Program.ask.inj (Stage.host.inj (stage.symm.trans stage'))
    simp [answer?, live] at answer
  | drop stage' | handle stage' | settings stage' | references stage' | events stage' =>
    obtain ⟨rfl, h⟩ := Program.ask.inj (Stage.host.inj (stage.symm.trans stage'))
    obtain rfl := eq_of_heq h
    rw [← Option.some.inj answer]
  | _ => simp_all

/-! ## Courses -/

/-- From `p` the thread has come with `x`, after which it does `rest`, as far as `y`. A request that
is not answered at once takes it away from the station until it goes on there with a reply. -/
inductive Course (host : Host σ) (l : Station E σ) (rest : α → Program σ MethodResult)
    (p : Process E σ) (x : Program σ α) : List (Moment E σ) → Process E σ → Program σ α → Prop
  | refl (here : l.At (x.bind rest) p) : Course host l rest p x [] p x
  | wait {past q y t r} (course : Course host l rest p x past q y) (other : t ≠ l.thread)
      (next : q.step? host t = some r) : Course host l rest p x (⟨q, t⟩ :: past) r y
  | read {past q f r} (course : Course host l rest p x past q (.read f))
      (next : q.step? host l.thread = some r) :
    Course host l rest p x (⟨q, l.thread⟩ :: past) r (f q.memory)
  | write {past q memory y r} (course : Course host l rest p x past q (.write memory y))
      (next : q.step? host l.thread = some r) :
    Course host l rest p x (⟨q, l.thread⟩ :: past) r y
  | answered {past q request f reply r} (course : Course host l rest p x past q (.ask request f))
      (answer : q.answer? request = some reply) (next : q.step? host l.thread = some r) :
    Course host l rest p x (⟨q, l.thread⟩ :: past) r (f reply)
  | returned {past q request f r away z reply}
      (course : Course host l rest p x past q (.ask request f))
      (unanswered : q.answer? request = none) (next : q.step? host l.thread = some r)
      (run : Run host r away z) (within : ∀ m ∈ away, l.home m.process = false)
      (back : l.At ((f reply).bind rest) z) :
    Course host l rest p x (away ++ ⟨q, l.thread⟩ :: past) z (f reply)

namespace Course

variable {l : Station E σ} {rest : α → Program σ MethodResult} {x y z : Program σ α}

theorem run (course : Course host l rest p x past q y) : Run host p past q := by
  induction course with
  | refl => exact .refl
  | wait _ _ next ih | read _ next ih | write _ next ih | answered _ _ next ih => exact ih.step next
  | returned _ _ next run _ _ ih => exact (ih.step next).trans run

/-- The thread is at the station, and has the rest of the program before it. -/
theorem there (course : Course host l rest p x past q y) : l.At (y.bind rest) q := by
  induction course with
  | refl here => exact here
  | wait _ other next ih => exact Station.On.of_ne ih next other
  | read _ next ih => exact ih.steps next fun act => act.of_read rfl
  | write _ next ih => exact ih.steps next fun act => act.of_write rfl
  | answered _ answer next ih => exact ih.steps next fun act => act.answered rfl answer
  | returned _ _ _ _ _ back _ => exact back

theorem trans {past' : List (Moment E σ)} (first : Course host l rest p x past q y)
    (second : Course host l rest q y past' r z) : Course host l rest p x (past' ++ past) r z := by
  induction second with
  | refl => exact first
  | wait _ other next ih => exact ih.wait other next
  | read _ next ih => exact ih.read next
  | write _ next ih => exact ih.write next
  | answered _ answer next ih => exact ih.answered answer next
  | returned _ unanswered next run within back ih =>
    rw [List.append_assoc]
    exact ih.returned unanswered next run within back

theorem of_waits (here : l.At (x.bind rest) p) (waits : Waits host l.thread p past q) :
    Course host l rest p x past q x := by
  obtain ⟨run, others⟩ := waits
  induction run with
  | refl => exact .refl here
  | step run next ih =>
    exact (ih fun m hm => others m (List.mem_cons_of_mem _ hm)).wait
      (others _ (List.mem_cons_self ..)) next

/-! ### Programs of two parts -/

section Bind

variable {x : Program σ β} {g : β → Program σ α} {w : Program σ α}

theorem handOver {b : β} (course : Course host l (fun b => (g b).bind rest) p x past q (.done b))
    (h : w = g b) : Course host l rest q (g b) [] q w := by
  subst h
  exact .refl course.there

/-- A thread with a program of two parts is in the first part, or has done it and goes on with the
second. -/
theorem of_bind (course : Course host l rest p (x.bind g) past q w) :
    (∃ y, w = y.bind g ∧ Course host l (fun b => (g b).bind rest) p x past q y) ∨
      ∃ b m past₁ past₂, Course host l (fun b => (g b).bind rest) p x past₁ m (.done b) ∧
        Course host l rest m (g b) past₂ q w ∧ past = past₂ ++ past₁ := by
  induction course with
  | refl here => exact Or.inl ⟨x, rfl, .refl (Program.bind_assoc x g rest ▸ here)⟩
  | wait _ other next ih =>
    rcases ih with ⟨y, hy, first⟩ | ⟨b, m, past₁, past₂, first, second, rfl⟩
    · exact Or.inl ⟨y, hy, first.wait other next⟩
    · exact Or.inr ⟨b, m, past₁, _, first, second.wait other next, rfl⟩
  | read _ next ih =>
    rcases ih with ⟨y, hy, first⟩ | ⟨b, m, past₁, past₂, first, second, rfl⟩
    · rcases Program.bind_eq_read hy.symm with ⟨b, rfl⟩ | ⟨f, rfl, rfl⟩
      · exact Or.inr ⟨b, _, _, _, first, (first.handOver hy).read next, rfl⟩
      · exact Or.inl ⟨_, rfl, first.read next⟩
    · exact Or.inr ⟨b, m, past₁, _, first, second.read next, rfl⟩
  | write _ next ih =>
    rcases ih with ⟨y, hy, first⟩ | ⟨b, m, past₁, past₂, first, second, rfl⟩
    · rcases Program.bind_eq_write hy.symm with ⟨b, rfl⟩ | ⟨y', rfl, rfl⟩
      · exact Or.inr ⟨b, _, _, _, first, (first.handOver hy).write next, rfl⟩
      · exact Or.inl ⟨_, rfl, first.write next⟩
    · exact Or.inr ⟨b, m, past₁, _, first, second.write next, rfl⟩
  | answered _ answer next ih =>
    rcases ih with ⟨y, hy, first⟩ | ⟨b, m, past₁, past₂, first, second, rfl⟩
    · rcases Program.bind_eq_ask hy.symm with ⟨b, rfl⟩ | ⟨f, rfl, rfl⟩
      · exact Or.inr ⟨b, _, _, _, first, (first.handOver hy).answered answer next, rfl⟩
      · exact Or.inl ⟨_, rfl, first.answered answer next⟩
    · exact Or.inr ⟨b, m, past₁, _, first, second.answered answer next, rfl⟩
  | returned _ unanswered next run within back ih =>
    rcases ih with ⟨y, hy, first⟩ | ⟨b, m, past₁, past₂, first, second, rfl⟩
    · rcases Program.bind_eq_ask hy.symm with ⟨b, rfl⟩ | ⟨f, rfl, rfl⟩
      · exact Or.inr ⟨b, _, _, _, first,
          (first.handOver hy).returned unanswered next run within back, by simp⟩
      · rw [Program.bind_assoc] at back
        exact Or.inl ⟨_, rfl, first.returned unanswered next run within back⟩
    · exact Or.inr ⟨b, m, past₁, _, first, second.returned unanswered next run within back,
        by simp⟩

/-- A program of two parts that is done was done part by part. -/
theorem of_bind_done {a : α} (course : Course host l rest p (x.bind g) past q (.done a)) :
    ∃ b m past₁ past₂, Course host l (fun b => (g b).bind rest) p x past₁ m (.done b) ∧
      Course host l rest m (g b) past₂ q (.done a) ∧ past = past₂ ++ past₁ := by
  rcases course.of_bind with ⟨y, hy, first⟩ | parts
  · obtain ⟨b, rfl, hb⟩ := Program.bind_eq_done hy.symm
    exact ⟨b, q, past, [], first, first.handOver hb.symm, rfl⟩
  · exact parts

end Bind

theorem of_done {a : α} {w : Program σ α} (course : Course host l rest p (.done a) past q w) :
    w = .done a ∧ Waits host l.thread p past q := by
  induction course with
  | refl => exact ⟨rfl, .refl _⟩
  | wait _ other next ih => exact ⟨ih.1, ih.2.step other next⟩
  | read | write | answered | returned => simp_all

end Course

/-! ### Single requests -/

/-- A thread at the station makes a request in `a` and has its reply in `z`; before and after it
waits. -/
structure Exchange (host : Host σ) (l : Station E σ) {request : Request}
    (rest : request.Reply → Program σ MethodResult) (p : Process E σ) (past : List (Moment E σ))
    (q : Process E σ) (reply : request.Reply) (a a' z : Process E σ)
    (before away after : List (Moment E σ)) : Prop where
  waits : Waits host l.thread p before a
  asks : l.At (.ask request rest) a
  next : a.step? host l.thread = some a'
  run : Run host a' away z
  within : ∀ m ∈ away, l.home m.process = false
  back : l.At (rest reply) z
  answer : ∀ reply', a.answer? request = some reply' → reply = reply' ∧ away = []
  then_waits : Waits host l.thread z after q
  parts : past = after ++ (away ++ ⟨a, l.thread⟩ :: before)

theorem Exchange.at_once {l : Station E σ} {request : Request}
    {rest : request.Reply → Program σ MethodResult} {reply reply' : request.Reply}
    {a a' z : Process E σ} {before away after : List (Moment E σ)}
    (exchange : Exchange host l rest p past q reply a a' z before away after)
    (answer : a.answer? request = some reply') : reply = reply' ∧ away = [] ∧ z = a' := by
  obtain ⟨same, rfl⟩ := exchange.answer reply' answer
  cases exchange.run
  exact ⟨same, rfl, rfl⟩

theorem Course.of_request {l : Station E σ} (request : Request)
    {rest : request.Reply → Program σ MethodResult} {w : Program σ request.Reply}
    (course : Course host l rest p (.request request) past q w) :
    w = .request request ∧ Waits host l.thread p past q ∨
      ∃ reply a a' z before away after, w = .done reply ∧
        Exchange host l rest p past q reply a a' z before away after := by
  induction course with
  | refl => exact Or.inl ⟨rfl, .refl _⟩
  | wait _ other next ih =>
    rcases ih with ⟨rfl, waits⟩ | ⟨reply, a, a', z, before, away, after, rfl, exchange⟩
    · exact Or.inl ⟨rfl, waits.step other next⟩
    · exact Or.inr ⟨reply, a, a', z, before, away, _, rfl,
        { exchange with
          then_waits := exchange.then_waits.step other next
          parts := congrArg (_ :: ·) exchange.parts }⟩
  | read _ _ ih | write _ _ ih =>
    rcases ih with ⟨h, -⟩ | ⟨_, _, _, _, _, _, _, h, -⟩ <;> cases h
  | answered course answer next ih =>
    rcases ih with ⟨h, waits⟩ | ⟨_, _, _, _, _, _, _, h, -⟩
    · cases h
      exact Or.inr ⟨_, _, _, _, _, [], [], rfl, waits, course.there, next, .refl, nofun,
        (course.answered answer next).there,
        fun reply' h => ⟨Option.some.inj (answer.symm.trans h), rfl⟩, .refl _, rfl⟩
    · cases h
  | returned course unanswered next run within back ih =>
    rcases ih with ⟨h, waits⟩ | ⟨_, _, _, _, _, _, _, h, -⟩
    · cases h
      exact Or.inr ⟨_, _, _, _, _, _, [], rfl, waits, course.there, next, run, within, back,
        fun reply' h => absurd (unanswered.symm.trans h) nofun, .refl _, rfl⟩
    · cases h

/-! ## Every run is a course -/

section Away

variable {P : Program σ MethodResult → Prop} {l : Station E σ} {x : Program σ α}
  {rest : α → Program σ MethodResult}

/-- A thread that is not at host code goes on towards its answer, or calls the host. -/
theorem Act.backs (act : Act host p t th p' th') (off : th.stage.isHost = false)
    (backs : th.stage.Backs P) :
    th'.calls = th.calls ∧ th'.active = th.active ∧ th'.stage.Backs P ∨
      ∃ call, th'.calls = call :: th.calls ∧
        th'.active = call.work.underway.entry :: th.active ∧
        ∀ reply, P (call.work.underway.back reply) := by
  cases act with
  | workCall stage gate =>
    rw [stage] at backs
    exact Or.inr ⟨_, rfl, rfl, backs⟩
  | resume stage | read stage | write stage | createFailed stage | create stage | useClosed stage
  | useDefault stage | use stage | closeAgain stage | close stage | drop stage | handle stage
  | settings stage | references stage | events stage =>
    rw [stage] at off
    cases off
  | findClosed stage | findGlobals stage | findEvaluate stage | findCollect stage
  | findUnnamed stage | findRefused stage | findBind stage | names stage | lock stage
  | checkReleased stage | check stage | enter stage | workDone stage | workRefused stage
  | leave stage | publish stage | publishNothing stage | finish stage | finishLast stage
  | unlock stage | vacateNone stage | vacate stage | lockToClose stage | defer stage
  | destroy stage | unlockClosed stage =>
    rw [stage] at backs
    first
      | exact Or.inl ⟨rfl, rfl, backs⟩
      | exact Or.inl ⟨rfl, rfl, backs _⟩

/-- A request that is not answered at once takes the thread away from host code. -/
theorem Act.unanswered (act : Act host p t th p' th') {request : Request}
    {next : request.Reply → Program σ MethodResult} (stage : th.stage = .host (.ask request next))
    (answer : p.answer? request = none) :
    th'.calls = th.calls ∧ th'.active = th.active ∧ th'.stage.isHost = false ∧
      th'.stage.Backs fun body => ∃ reply, body = next reply := by
  cases act with
  | resume stage' result =>
    obtain rfl := Stage.host.inj (stage.symm.trans stage')
    cases result
  | createFailed stage' | create stage' | drop stage' | handle stage' | settings stage'
  | references stage' | events stage' =>
    obtain ⟨rfl, h⟩ := Program.ask.inj (Stage.host.inj (stage.symm.trans stage'))
    cases answer
  | useClosed stage' null | closeAgain stage' null =>
    obtain ⟨rfl, h⟩ := Program.ask.inj (Stage.host.inj (stage.symm.trans stage'))
    cases (if_pos null).symm.trans answer
  | useDefault stage' live | use stage' live =>
    obtain ⟨rfl, h⟩ := Program.ask.inj (Stage.host.inj (stage.symm.trans stage'))
    obtain rfl := eq_of_heq h
    exact ⟨rfl, rfl, rfl, fun reply => ⟨reply, rfl⟩⟩
  | close stage' live =>
    obtain ⟨rfl, h⟩ := Program.ask.inj (Stage.host.inj (stage.symm.trans stage'))
    obtain rfl := eq_of_heq h
    exact ⟨rfl, rfl, rfl, (), rfl⟩
  | _ => simp_all

/-- The thread comes back to the station with one of these programs. -/
def Station.Back (l : Station E σ) (P : Program σ MethodResult → Prop) (p : Process E σ) : Prop :=
  ∃ th, p.threads[l.thread.index]? = some th ∧
    (th.calls = l.calls ∧ th.active = l.active ∧ th.stage.Backs P ∨
      ∃ call, th.Inside call l.calls l.active ∧ ∀ reply, P (call.work.underway.back reply))

theorem Station.home_eq (at_t : p.threads[l.thread.index]? = some th) :
    l.home p = (th.stage.isHost && th.calls.length == l.calls.length) := by
  unfold Station.home
  rw [at_t]
  rfl

theorem Station.Back.at_home (back : l.Back P p) (home : l.home p = true) :
    ∃ body, P body ∧ l.At body p := by
  obtain ⟨th, at_t, cases⟩ := back
  rw [Station.home_eq at_t, Bool.and_eq_true, beq_iff_eq] at home
  rcases cases with ⟨calls, active, backs⟩ | ⟨call, inside, -⟩
  · obtain ⟨stage, calls', active'⟩ := th
    cases stage with
    | host body =>
      subst calls active
      exact ⟨body, backs, at_t⟩
    | _ => cases home.1
  · have := inside.length_lt
    omega

theorem Station.Back.step (back : l.Back P p) (off : l.home p = false)
    (next : p.step? host t = some q) : l.Back P q := by
  obtain ⟨th, at_t, cases⟩ := back
  by_cases own : t = l.thread
  · subst own
    obtain ⟨th₁, p', th', at_t', act, rfl⟩ := step?_eq_some_iff.1 next
    obtain rfl := Option.some.inj (at_t'.symm.trans at_t)
    refine ⟨th', getElem?_setThread_self (act.threads ▸ at_t), ?_⟩
    rcases cases with ⟨calls, active, backs⟩ | ⟨call, inside, backs⟩
    · rw [Station.home_eq at_t, calls, beq_self_eq_true, Bool.and_true] at off
      rcases act.backs off backs with ⟨calls', active', backs'⟩ | ⟨call, calls', active', backs'⟩
      · exact Or.inl ⟨calls'.trans calls, active'.trans active, backs'⟩
      · rw [calls] at calls'
        rw [active] at active'
        exact Or.inr ⟨call, Thread.inside_of_calls calls' active', backs'⟩
    · rcases act.inside inside with inside' | ⟨outcome, c, rfl⟩
      · exact Or.inr ⟨call, inside', backs⟩
      · exact Or.inl ⟨rfl, rfl, backs⟩
  · exact ⟨th, (thread_eq_of_step? next (Ne.symm own)).trans at_t, cases⟩

theorem Station.Back.run (back : l.Back P p) (run : Run host p past q)
    (within : ∀ m ∈ past, l.home m.process = false) : l.Back P q := by
  induction run with
  | refl => exact back
  | step run next ih =>
    exact (ih fun m hm => within m (List.mem_cons_of_mem _ hm)).step
      (within _ (List.mem_cons_self ..)) next

theorem Station.At.unanswered {request : Request} {next : request.Reply → Program σ MethodResult}
    (here : l.At (.ask request next) p) (answer : p.answer? request = none)
    (asked : p.step? host l.thread = some q) :
    l.home q = false ∧ l.Back (fun body => ∃ reply, body = next reply) q := by
  obtain ⟨th, p', th', at_t, act, rfl⟩ := step?_eq_some_iff.1 asked
  obtain rfl := Option.some.inj (at_t.symm.trans here)
  have at_t' : (p'.setThread l.thread th').threads[l.thread.index]? = some th' :=
    getElem?_setThread_self (act.threads ▸ at_t)
  obtain ⟨calls, active, off, backs⟩ := act.unanswered rfl answer
  refine ⟨?_, th', at_t', Or.inl ⟨calls, active, backs⟩⟩
  rw [Station.home_eq at_t', off, Bool.false_and]

/-- The thread has begun with a program and is not through with it. -/
inductive Within (host : Host σ) (l : Station E σ) (rest : α → Program σ MethodResult)
    (p : Process E σ) (x : Program σ α) (past : List (Moment E σ)) (q : Process E σ) : Prop
  /-- it is at the station -/
  | here {y} (course : Course host l rest p x past q y) (more : y.result? = none)
  /-- it waits for the answer to a request -/
  | away {m request f r before gone} (course : Course host l rest p x before m (.ask request f))
      (unanswered : m.answer? request = none) (next : m.step? host l.thread = some r)
      (run : Run host r gone q) (within : ∀ m' ∈ gone, l.home m'.process = false)
      (off : l.home q = false) (parts : past = gone ++ ⟨m, l.thread⟩ :: before)

/-- The thread has come to the end of a program, now or before. -/
def Ended (host : Host σ) (l : Station E σ) (rest : α → Program σ MethodResult) (p : Process E σ)
    (x : Program σ α) (past : List (Moment E σ)) (q : Process E σ) : Prop :=
  ∃ m y result before after, Course host l rest p x before m y ∧ y.result? = some result ∧
    Run host m after q ∧ past = after ++ before

theorem Course.within_or_ended {y : Program σ α} (course : Course host l rest p x past q y) :
    Within host l rest p x past q ∨ Ended host l rest p x past q := by
  cases h : y.result? with
  | none => exact Or.inl (.here course h)
  | some result => exact Or.inr ⟨q, y, result, past, [], course, h, .refl, rfl⟩

/-- A thread that has a program before it is in a course of it, at the station or away, until the
program is at its end. -/
theorem Run.course (run : Run host p past q) (here : l.At (x.bind rest) p) :
    Within host l rest p x past q ∨ Ended host l rest p x past q := by
  induction run with
  | refl => exact (Course.refl here).within_or_ended
  | @step past q r t run next ih =>
    rcases ih with within | ⟨m, y, result, before, after, course, ended, onwards, rfl⟩
    · cases within with
      | @here y course more =>
        by_cases own : t = l.thread
        · subst own
          cases y with
          | done | panic => cases more
          | read f => exact (course.read next).within_or_ended
          | write memory y => exact (course.write next).within_or_ended
          | ask request f =>
            cases answer : q.answer? request with
            | some reply => exact (course.answered answer next).within_or_ended
            | none =>
              have off := (course.there.unanswered answer next).1
              exact Or.inl (.away course answer next .refl nofun off rfl)
        · exact (course.wait own next).within_or_ended
      | @away m request f r' before gone course unanswered next' run' within off parts =>
        have within' : ∀ m' ∈ ⟨q, t⟩ :: gone, l.home m'.process = false := by
          intro m' hm'
          rcases List.mem_cons.1 hm' with rfl | hm'
          · exact off
          · exact within m' hm'
        have back := (course.there.unanswered unanswered next').2.run (run'.step next) within'
        subst parts
        cases home : l.home r with
        | false => exact Or.inl (.away course unanswered next' (run'.step next) within' home rfl)
        | true =>
          obtain ⟨body, ⟨reply, rfl⟩, at_l⟩ := back.at_home home
          exact (course.returned unanswered next' (run'.step next) within' at_l).within_or_ended
    · exact Or.inr ⟨m, y, result, before, _, course, ended, onwards.step next, rfl⟩

end Away

end Process

end Drawbridge
