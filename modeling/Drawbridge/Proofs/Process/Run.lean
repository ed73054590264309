import Drawbridge.Proofs.Process.Action
import Mathlib.Algebra.Order.BigOperators.Group.List
import Mathlib.Algebra.Order.Ring.Nat

/-!
# Runs

`Run` is any interleaving of the steps of the threads, with the moments at which they were made.
What every step keeps holds after every run (`Run.keeps`); a thread that makes no step stays as it
is (`Run.thread_eq`); states that a schedule leads to are reached by a run (`Run.of_follow`).
-/

namespace Drawbridge

/-- A small engine: each script calls the first method of what was bound last. -/
def Engine.relay : Engine where
  Context := List Binding
  create? _ := some []
  evaluate _ _ bindings :=
    match bindings with
    | [] => .done (.ok "") []
    | b :: _ => .call ⟨b, 0⟩ [] bindings fun _ bindings => .done (.ok "") bindings
  install b bindings := .done (.ok ()) (b :: bindings)
  collect := id
  proxies := id

namespace Process

variable {E : Engine} {σ : Type} {host : Host σ} {p q r : Process E σ} {t : ThreadId}
  {th th' : Thread E.Context σ}

/-- A state, and the thread that makes the next step. -/
structure Moment (E : Engine) (σ : Type) where
  process : Process E σ
  thread : ThreadId

/-- `q` comes of `p` by steps of any threads in any order. The moments are those of the steps, the
latest first. -/
inductive Run (host : Host σ) (p : Process E σ) : List (Moment E σ) → Process E σ → Prop
  | refl : Run host p [] p
  | step {past q r t} (run : Run host p past q) (next : q.step? host t = some r) :
    Run host p (⟨q, t⟩ :: past) r

namespace Run

variable {past past' : List (Moment E σ)}

theorem trans (first : Run host p past q) (second : Run host q past' r) :
    Run host p (past' ++ past) r := by
  induction second with
  | refl => exact first
  | step run next ih => exact ih.step next

/-- A run goes through the state between its earlier and its later moments. -/
theorem of_append (run : Run host p (past' ++ past) q) :
    ∃ r, Run host p past r ∧ Run host r past' q := by
  induction past' generalizing q with
  | nil => exact ⟨q, run, .refl⟩
  | cons m later ih =>
    cases run with
    | step run next =>
      obtain ⟨r, first, rest⟩ := ih run
      exact ⟨r, first, rest.step next⟩

/-- What holds at first and is kept by every action holds after every run. -/
theorem keeps {I : Process E σ → Prop} (run : Run host p past q) (first : I p)
    (kept : ∀ {p t th p' th'}, I p → p.threads[t.index]? = some th → Act host p t th p' th' →
      I (p'.setThread t th')) : I q := by
  induction run with
  | refl => exact first
  | step run next ih =>
    obtain ⟨th, p', th', hth, act, rfl⟩ := step?_eq_some_iff.1 next
    exact kept ih hth act

/-- The step that a moment of a run stands for, and the run before and after it. -/
theorem split_step (run : Run host p past q) {m : Moment E σ} (hm : m ∈ past) :
    ∃ before r after, Run host p before m.process ∧ m.process.step? host m.thread = some r ∧
      Run host r after q ∧ past = after ++ m :: before := by
  induction run with
  | refl => exact absurd hm List.not_mem_nil
  | @step past q r t run next ih =>
    rcases List.mem_cons.1 hm with rfl | hm
    · exact ⟨past, r, [], run, next, .refl, rfl⟩
    · obtain ⟨before, s, after, h₁, h₂, h₃, rfl⟩ := ih hm
      exact ⟨before, s, ⟨q, t⟩ :: after, h₁, h₂, h₃.step next, rfl⟩

/-- A run goes through each of its moments. -/
theorem split (run : Run host p past q) {m : Moment E σ} (hm : m ∈ past) :
    ∃ before after, Run host p before m.process ∧ Run host m.process after q ∧
      past = after ++ before := by
  obtain ⟨before, r, after, h₁, next, h₂, rfl⟩ := run.split_step hm
  exact ⟨before, _, h₁, (Run.refl.step next).trans h₂, by simp⟩

end Run

/-- The states of a run that ends in `q`, the latest first. -/
def instants (past : List (Moment E σ)) (q : Process E σ) : List (Process E σ) :=
  q :: past.map (·.process)

theorem mem_instants_self (past : List (Moment E σ)) (q : Process E σ) : q ∈ instants past q :=
  List.mem_cons_self ..

theorem mem_instants_of_mem {past : List (Moment E σ)} {m : Moment E σ} (hm : m ∈ past)
    (q : Process E σ) : m.process ∈ instants past q :=
  List.mem_cons_of_mem _ (List.mem_map_of_mem hm)

theorem Run.mem_instants {past : List (Moment E σ)} (run : Run host p past q) :
    p ∈ instants past q := by
  induction run with
  | refl => exact mem_instants_self _ p
  | step run next ih => exact List.mem_cons_of_mem _ ih

theorem Run.split_instants {past : List (Moment E σ)} (run : Run host p past q)
    (hr : r ∈ instants past q) :
    ∃ before after, Run host p before r ∧ Run host r after q ∧ past = after ++ before := by
  rcases List.mem_cons.1 hr with rfl | hr
  · exact ⟨past, [], run, .refl, rfl⟩
  · obtain ⟨m, hm, rfl⟩ := List.mem_map.1 hr
    exact run.split hm

/-- Of two states of a run one comes of the other. -/
theorem Run.total_instants {past : List (Moment E σ)} (run : Run host p past q) {r r' : Process E σ}
    (hr : r ∈ instants past q) (hr' : r' ∈ instants past q) :
    (∃ between, Run host r between r') ∨ ∃ between, Run host r' between r := by
  obtain ⟨before, after, h₁, h₂, rfl⟩ := run.split_instants hr
  rcases List.mem_cons.1 hr' with rfl | hr'
  · exact Or.inl ⟨after, h₂⟩
  · obtain ⟨m, hm, rfl⟩ := List.mem_map.1 hr'
    rcases List.mem_append.1 hm with hm | hm
    · obtain ⟨between, -, h, -, -⟩ := h₂.split hm
      exact Or.inl ⟨between, h⟩
    · obtain ⟨-, between, -, h, -⟩ := h₁.split hm
      exact Or.inr ⟨between, h⟩

/-- What holds at first and not in the end is lost in some step. -/
theorem Run.crossing {P : Process E σ → Prop} {past : List (Moment E σ)} (run : Run host p past q)
    (first : P p) (last : ¬ P q) :
    ∃ m ∈ past, ∃ r ∈ instants past q, P m.process ∧ ¬ P r ∧
      m.process.step? host m.thread = some r := by
  induction run with
  | refl => exact absurd first last
  | @step past q r t run next ih =>
    by_cases hq : P q
    · exact ⟨⟨q, t⟩, List.mem_cons_self .., r, mem_instants_self _ r, hq, last, next⟩
    · obtain ⟨m, hm, s, hs, h⟩ := ih hq
      exact ⟨m, List.mem_cons_of_mem _ hm, s, List.mem_cons_of_mem _ hs, h⟩

/-! ## Threads -/

theorem Act.threads {p' : Process E σ} (act : Act host p t th p' th') : p'.threads = p.threads := by
  cases act with
  | drop => split_ifs <;> rfl
  | leave => split_ifs <;> rfl
  | _ => rfl

theorem getElem?_setThread_self (h : p.threads[t.index]? = some th) :
    (p.setThread t th').threads[t.index]? = some th' :=
  Array.getElem?_setIfInBounds_self_of_lt (Array.getElem?_eq_some_iff.1 h).1

theorem getElem?_setThread_ne {s : ThreadId} (h : s ≠ t) :
    (p.setThread t th').threads[s.index]? = p.threads[s.index]? :=
  Array.getElem?_setIfInBounds_ne fun e => h (by cases s; cases t; exact congrArg _ e.symm)

theorem thread_eq_of_step? {s : ThreadId} (next : p.step? host t = some q) (h : s ≠ t) :
    q.threads[s.index]? = p.threads[s.index]? := by
  obtain ⟨th, p', th', -, act, rfl⟩ := step?_eq_some_iff.1 next
  rw [getElem?_setThread_ne h, act.threads]

theorem Run.thread_eq {past : List (Moment E σ)} (run : Run host p past q)
    (waits : ∀ m ∈ past, m.thread ≠ t) : q.threads[t.index]? = p.threads[t.index]? := by
  induction run with
  | refl => rfl
  | step run next ih =>
    rw [thread_eq_of_step? next (waits _ (List.mem_cons_self ..)).symm,
      ih fun m hm => waits m (List.mem_cons_of_mem _ hm)]

theorem Run.size_threads {past : List (Moment E σ)} (run : Run host p past q) :
    q.threads.size = p.threads.size := by
  refine run.keeps (I := fun q => q.threads.size = p.threads.size) rfl fun same _ act => ?_
  rw [threads_setThread, Array.size_setIfInBounds, act.threads, same]

theorem thread_start {memory : σ} {programs : List (Program σ MethodResult)}
    (at_t : (start E memory programs).threads[t.index]? = some th) :
    ∃ body, th = ⟨.host body, [], []⟩ := by
  simp only [start, List.getElem?_toArray, List.getElem?_map, Option.map_eq_some_iff] at at_t
  obtain ⟨body, -, rfl⟩ := at_t
  exact ⟨body, rfl⟩

/-- What each thread has at first and keeps in its own actions it has after every run. -/
theorem Run.keeps_thread {P : Thread E.Context σ → Prop} {memory : σ}
    {programs : List (Program σ MethodResult)} {past : List (Moment E σ)}
    (run : Run host (start E memory programs) past p) (first : ∀ body, P ⟨.host body, [], []⟩)
    (kept : ∀ {p t th p' th'}, P th → Act host p t th p' th' → P th')
    (at_t : p.threads[t.index]? = some th) : P th := by
  refine run.keeps (I := fun p => ∀ t th, p.threads[ThreadId.index t]? = some th → P th) ?_ ?_
    t th at_t
  · intro t th at_t
    obtain ⟨body, rfl⟩ := thread_start at_t
    exact first body
  · intro p t th p' th' ih at_t act s ths at_s
    by_cases hs : s = t
    · subst hs
      rw [getElem?_setThread_self (act.threads ▸ at_t)] at at_s
      obtain rfl := Option.some.inj at_s
      exact kept (ih _ _ at_t) act
    · rw [getElem?_setThread_ne hs, act.threads] at at_s
      exact ih s ths at_s

/-- The sum of a number over all threads. -/
def total (p : Process E σ) (f : Thread E.Context σ → Nat) : Nat := (p.threads.toList.map f).sum

theorem sum_map_set {α : Type} (f : α → Nat) {l : List α} {i : Nat} {a b : α}
    (h : l[i]? = some a) : ((l.set i b).map f).sum + f a = (l.map f).sum + f b := by
  induction l generalizing i with
  | nil => simp at h
  | cons c l ih =>
    cases i with
    | zero =>
      obtain rfl : c = a := by simpa using h
      simp only [List.set_cons_zero, List.map_cons, List.sum_cons]
      omega
    | succ i =>
      have := ih (i := i) (by simpa using h)
      simp only [List.set_cons_succ, List.map_cons, List.sum_cons]
      omega

theorem total_setThread (f : Thread E.Context σ → Nat) (h : p.threads[t.index]? = some th) :
    (p.setThread t th').total f + f th = p.total f + f th' := by
  unfold total
  rw [threads_setThread, Array.toList_setIfInBounds]
  exact sum_map_set f (by rw [Array.getElem?_toList, h])

theorem le_total (f : Thread E.Context σ → Nat) (h : p.threads[t.index]? = some th) :
    f th ≤ p.total f := by
  refine List.single_le_sum (fun _ _ => Nat.zero_le _) _ (List.mem_map_of_mem ?_)
  exact Array.mem_toList_iff.2 (Array.mem_of_getElem? h)

theorem total_eq_zero {f : Thread E.Context σ → Nat}
    (h : ∀ {t : ThreadId} {th}, p.threads[t.index]? = some th → f th = 0) : p.total f = 0 := by
  refine List.sum_eq_zero fun n hn => ?_
  obtain ⟨th, hth, rfl⟩ := List.mem_map.1 hn
  obtain ⟨i, hi⟩ := List.mem_iff_getElem?.1 hth
  exact h (t := ⟨i⟩) (Array.getElem?_toList ▸ hi)

theorem total_le_total {f g : Thread E.Context σ → Nat} (h : ∀ th, f th ≤ g th) :
    p.total f ≤ p.total g :=
  List.sum_le_sum fun th _ => h th

/-! ## Schedules -/

/-- The state after one step of each thread in a list, in order; none if one of them has no step. -/
def follow (host : Host σ) : List ThreadId → Process E σ → Option (Process E σ)
  | [], p => some p
  | t :: ts, p => (p.step? host t).bind (follow host ts)

/-- The moments of a schedule, the latest first. -/
def moments (host : Host σ) : List ThreadId → Process E σ → List (Moment E σ)
  | [], _ => []
  | t :: ts, p =>
    match p.step? host t with
    | none => []
    | some q => moments host ts q ++ [⟨p, t⟩]

theorem thread_mem_of_mem_moments {ts : List ThreadId} {m : Moment E σ}
    (h : m ∈ p.moments host ts) : m.thread ∈ ts := by
  induction ts generalizing p with
  | nil => exact absurd h List.not_mem_nil
  | cons t ts ih =>
    unfold moments at h
    cases hq : p.step? host t with
    | none => simp [hq] at h
    | some q =>
      simp only [hq, List.mem_append, List.mem_singleton] at h
      rcases h with h | rfl
      · exact List.mem_cons_of_mem _ (ih h)
      · exact List.mem_cons_self ..

theorem thread_ne_of_mem_moments {n : Nat} {s t : ThreadId} (hst : s ≠ t) :
    ∀ m ∈ p.moments host (List.replicate n s), m.thread ≠ t := by
  intro m hm
  rw [List.eq_of_mem_replicate (thread_mem_of_mem_moments hm)]
  exact hst

theorem Run.of_follow {ts : List ThreadId} (h : p.follow host ts = some q) :
    Run host p (p.moments host ts) q := by
  induction ts generalizing p with
  | nil =>
    obtain rfl := Option.some.inj h
    exact .refl
  | cons t ts ih =>
    obtain ⟨r, hr, hq⟩ := Option.bind_eq_some_iff.1 h
    unfold moments
    rw [hr]
    exact (Run.refl.step hr).trans (ih hq)

end Process

end Drawbridge
