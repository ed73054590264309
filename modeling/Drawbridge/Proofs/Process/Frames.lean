import Drawbridge.Proofs.Process.Run

/-!
# Calls of the host in progress

The calls of the host that a thread is in are a stack.  `Act.frames` says what actions do to it; as
long as a thread is inside a call, what lies below stays as it is, and when the body of the method
is at its end the work that waits goes on with what came of it (`Run.inside`).
-/

namespace Drawbridge

variable {C : Type} {E : Engine} {σ : Type}

/-- A thread is inside a call of the host, or inside calls that are made from within it. Below are
the calls and the entries of the thread as it made the call. -/
def Thread.Inside (th : Thread C σ) (call : HostCall C σ) (below : List (HostCall C σ))
    (active : List EntryId) : Prop :=
  ∃ above entries, th.calls = above ++ call :: below ∧ th.active = entries ++ active ∧
    entries.length = above.length + 1

/-- The thread that was inside a call goes on with the work that made it. -/
def Thread.Resumed (th : Thread C σ) (call : HostCall C σ) (below : List (HostCall C σ))
    (active : List EntryId) : Prop :=
  ∃ outcome c, th = ⟨.work call.work (call.resume (call.invocation.reply outcome) c), below, active⟩

section Thread

variable {th : Thread C σ} {call : HostCall C σ} {below : List (HostCall C σ)}
  {active : List EntryId}

theorem Thread.inside_of_calls (calls : th.calls = call :: below)
    (entries : th.active = call.work.underway.entry :: active) : th.Inside call below active :=
  ⟨[], [call.work.underway.entry], calls, entries, rfl⟩

theorem Thread.Inside.length_lt (inside : th.Inside call below active) :
    below.length < th.calls.length := by
  obtain ⟨above, entries, calls, -, -⟩ := inside
  rw [calls, List.length_append, List.length_cons]
  omega

end Thread

namespace Process

variable {host : Host σ} {p q p' : Process E σ} {t : ThreadId} {th th' : Thread E.Context σ}
  {call : HostCall E.Context σ} {below : List (HostCall E.Context σ)} {active : List EntryId}

/-- The number of calls of the host that a thread is in. -/
def nesting (p : Process E σ) (t : ThreadId) : Nat :=
  (p.threads[t.index]?.map (·.calls.length)).getD 0

theorem nesting_eq (at_t : p.threads[t.index]? = some th) : p.nesting t = th.calls.length := by
  unfold nesting
  rw [at_t]
  rfl

/-- A run is over at once or has a moment in its first state. -/
theorem Run.eq_nil_or_mem {past : List (Moment E σ)} (run : Run host p past q) :
    past = [] ∧ q = p ∨ ∃ m ∈ past, m.process = p := by
  induction run with
  | refl => exact Or.inl ⟨rfl, rfl⟩
  | @step past q r s run next ih =>
    rcases ih with ⟨-, rfl⟩ | ⟨m, hm, h⟩
    · exact Or.inr ⟨_, List.mem_cons_self .., rfl⟩
    · exact Or.inr ⟨m, List.mem_cons_of_mem _ hm, h⟩

/-- A call of the host is put on the stack or taken off, or the stack stays. -/
theorem Act.frames (act : Act host p t th p' th') :
    th'.calls = th.calls ∧ th'.active = th.active ∨
    (∃ call, th'.calls = call :: th.calls ∧ th'.active = call.work.underway.entry :: th.active ∧
      th'.stage = .host (host.invoke call.invocation.binding.object call.invocation.signature.name
        call.invocation.args)) ∨
    ∃ call calls, th.calls = call :: calls ∧ th'.Resumed call calls th.active.tail := by
  cases act with
  | resume stage result calling engine => exact Or.inr (Or.inr ⟨_, _, calling, _, _, rfl⟩)
  | workCall stage gate => exact Or.inr (Or.inl ⟨_, rfl, rfl, rfl⟩)
  | _ => exact Or.inl ⟨rfl, rfl⟩

theorem Act.inside (act : Act host p t th p' th') (inside : th.Inside call below active) :
    th'.Inside call below active ∨ th'.Resumed call below active := by
  obtain ⟨above, entries, hcalls, hactive, hlength⟩ := inside
  rcases act.frames with
    ⟨calls, entries'⟩ | ⟨call', calls, entries', -⟩ | ⟨call', calls, hc, resumed⟩
  · exact Or.inl ⟨above, entries, calls.trans hcalls, entries'.trans hactive, hlength⟩
  · refine Or.inl ⟨call' :: above, call'.work.underway.entry :: entries, ?_, ?_, ?_⟩
    · rw [calls, hcalls, List.cons_append]
    · rw [entries', hactive, List.cons_append]
    · rw [List.length_cons, List.length_cons, hlength]
  · obtain ⟨entry, entries, rfl⟩ := List.exists_cons_of_length_eq_add_one hlength
    rw [hcalls] at hc
    rw [hactive, List.cons_append, List.tail_cons] at resumed
    cases above with
    | nil =>
      obtain ⟨rfl, rfl⟩ := List.cons.inj hc
      obtain rfl : entries = [] := List.length_eq_zero_iff.1 (Nat.succ.inj hlength)
      exact Or.inr resumed
    | cons call'' above =>
      obtain ⟨rfl, rfl⟩ := List.cons.inj hc
      obtain ⟨outcome, c, rfl⟩ := resumed
      exact Or.inl ⟨above, entries, rfl, rfl, Nat.succ.inj hlength⟩

/-- As long as a thread has not left a call of the host it is inside it; then the work that made the
call goes on. -/
theorem Run.inside {past : List (Moment E σ)} (run : Run host p past q)
    (at_t : p.threads[t.index]? = some th) (inside : th.Inside call below active)
    (within : ∀ m ∈ past, below.length < m.process.nesting t) :
    ∃ th', q.threads[t.index]? = some th' ∧
      (th'.Inside call below active ∨ th'.Resumed call below active) := by
  induction run with
  | refl => exact ⟨th, at_t, Or.inl inside⟩
  | @step past q r s run next ih =>
    obtain ⟨th₁, at₁, cases⟩ := ih fun m hm => within m (List.mem_cons_of_mem _ hm)
    have deep := within _ (List.mem_cons_self ..)
    rw [nesting_eq at₁] at deep
    by_cases hs : t = s
    · subst hs
      obtain ⟨th₂, q', th₃, at₂, act, rfl⟩ := step?_eq_some_iff.1 next
      obtain rfl := Option.some.inj (at₁.symm.trans at₂)
      refine ⟨th₃, getElem?_setThread_self (act.threads ▸ at₁), ?_⟩
      rcases cases with inside | ⟨outcome, c, rfl⟩
      · exact act.inside inside
      · exact absurd deep (Nat.lt_irrefl _)
    · exact ⟨th₁, (thread_eq_of_step? next hs).trans at₁, cases⟩

end Process

end Drawbridge
