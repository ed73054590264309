import Drawbridge.Process.Step
import Mathlib.Data.List.Nodup

/-!
# The parts of a process

One lemma for each part of the state that an operation of `Process` writes, so that what steps do
can be read off without opening them.  `release_eq`, `giveBack_eq` and `acquire?_eq_some_iff` bring
the operations on one entry to `Process.modifyEntry` of a function with a name.
-/

namespace Drawbridge

variable {C : Type} {E : Engine} {σ : Type}

/-! ## What is done to an entry -/

namespace Entry

/-- How often a thread holds the lock. -/
def holds (x : Entry C) (t : ThreadId) : Nat :=
  match x.lock with
  | some (owner, n) => if owner = t then n else 0
  | none => 0

/-- The lock is free, or the thread has it. -/
def Open (x : Entry C) (t : ThreadId) : Prop := ∀ owner n, x.lock = some (owner, n) → owner = t

/-- The lock is taken once more. -/
def grab (t : ThreadId) (x : Entry C) : Entry C := { x with lock := some (t, x.holds t + 1) }

/-- The lock is given back once. -/
def letGo (x : Entry C) : Entry C :=
  { x with
    lock := match x.lock with
      | some (owner, n) => if n ≤ 1 then none else some (owner, n - 1)
      | none => none }

/-- An operation begins; one that publishes prepares its binding. -/
def engage (op : Operation) (x : Entry C) : Entry C :=
  { x with
    depth := x.depth + 1
    pins := x.pins + 1
    board := match op with
      | .bind name roster object => (x.board.prepare name roster object).2
      | _ => x.board }

/-- The binding that an operation that begins now is to publish. -/
def pending (op : Operation) (x : Entry C) : Option Binding :=
  match op with
  | .bind name roster object => some (x.board.prepare name roster object).1
  | _ => none

/-- The operation that ends is the last one of a closed entry. -/
def last (x : Entry C) : Bool := x.depth = 1 && x.closing

/-- An operation ends. -/
def dismiss (x : Entry C) : Entry C :=
  { x with depth := x.depth - 1, pins := x.pins - 1, closing := x.closing && !x.last }

/-- The engine is let go. -/
def dropEngine (x : Entry C) : Entry C :=
  { x with engine := none, board := x.board.clear, releases := x.releases + 1 }

/-- What is reported as the engine is let go. -/
def farewell (x : Entry C) : List Event :=
  match x.engine with
  | some _ => [if x.pins = 0 then .destroyed else .shared]
  | none => []

@[simp] theorem reverse_farewell (x : Entry C) : x.farewell.reverse = x.farewell := by
  unfold farewell
  split <;> rfl

end Entry

/-- How a program ended, once it did. -/
def Program.result? {α : Type} : Program σ α → Option (Except Panic α)
  | .done a => some (.ok a)
  | .panic payload => some (.error payload)
  | _ => none

namespace Process

/-! ## What is done to the state -/

/-- A new interpreter, its entry and a handle that leads there. -/
def enroll (p : Process E σ) (c : E.Context) (settings : Settings) : Process E σ :=
  { p with
    entries := p.entries.push (.fresh c)
    directory := (p.directory.insert ⟨p.entries.size⟩).2
    interpreters := p.interpreters.push ⟨(p.directory.insert ⟨p.entries.size⟩).1.toBits, settings⟩ }

/-- The handle of an interpreter becomes null. -/
def nullify (p : Process E σ) (js : InterpreterId) : Process E σ :=
  { p with interpreters := p.interpreters.modify js.index fun i => { i with word := 0 } }

/-- The board of an entry, empty where there is none. -/
def boardOf (p : Process E σ) (e : EntryId) : Switchboard :=
  ((p.entry? e).map (·.board)).getD .empty

/-! ## Parts of the state -/

theorem entry?_start (memory : σ) (programs : List (Program σ MethodResult)) (e : EntryId) :
    entry? (start E memory programs) e = none := rfl

theorem entry?_eq_none_iff {p : Process E σ} {e : EntryId} :
    p.entry? e = none ↔ p.entries.size ≤ e.index := Array.getElem?_eq_none_iff

theorem entry?_size (p : Process E σ) : p.entry? ⟨p.entries.size⟩ = none :=
  entry?_eq_none_iff.2 (Nat.le_refl _)

theorem isSome_entry?_iff {p : Process E σ} {e : EntryId} :
    (p.entry? e).isSome ↔ e.index < p.entries.size := by
  unfold entry?
  rw [isSome_getElem?]

theorem interpreter?_eq_none_iff {p : Process E σ} {js : InterpreterId} :
    p.interpreter? js = none ↔ p.interpreters.size ≤ js.index := Array.getElem?_eq_none_iff

theorem isSome_interpreter?_iff {p : Process E σ} {js : InterpreterId} :
    (p.interpreter? js).isSome ↔ js.index < p.interpreters.size := by
  unfold interpreter?
  rw [isSome_getElem?]

theorem lt_size_of_interpreter? {p : Process E σ} {js : InterpreterId} {i : Interpreter}
    (h : p.interpreter? js = some i) : js.index < p.interpreters.size :=
  isSome_interpreter?_iff.1 (Option.isSome_of_eq_some h)

section Fields

variable (p : Process E σ) (e : EntryId) (f : Entry E.Context → Entry E.Context) (es : List Event)
  (t : ThreadId) (th : Thread E.Context σ) (js : InterpreterId) (c : E.Context) (s : Settings)

theorem entry?_modifyEntry (e' : EntryId) :
    entry? (p.modifyEntry e f) e' = if e' = e then (p.entry? e').map f else p.entry? e' := by
  unfold modifyEntry entry?
  rw [Array.getElem?_modify]
  obtain ⟨i⟩ := e
  obtain ⟨j⟩ := e'
  by_cases h : i = j
  · simp [h]
  · simp [h, Ne.symm h]

@[simp] theorem size_modifyEntry : (p.modifyEntry e f).entries.size = p.entries.size := by
  simp [modifyEntry]

@[simp] theorem directory_modifyEntry : (p.modifyEntry e f).directory = p.directory := rfl
@[simp] theorem interpreters_modifyEntry : (p.modifyEntry e f).interpreters = p.interpreters := rfl
@[simp] theorem log_modifyEntry : (p.modifyEntry e f).log = p.log := rfl

@[simp] theorem entries_report : (p.report es).entries = p.entries := rfl
@[simp] theorem entry?_report (e' : EntryId) : entry? (p.report es) e' = p.entry? e' := rfl
@[simp] theorem directory_report : (p.report es).directory = p.directory := rfl
@[simp] theorem log_report : (p.report es).log = es.reverse ++ p.log := rfl

@[simp] theorem entries_setThread : (p.setThread t th).entries = p.entries := rfl
@[simp] theorem directory_setThread : (p.setThread t th).directory = p.directory := rfl
@[simp] theorem interpreters_setThread : (p.setThread t th).interpreters = p.interpreters := rfl
@[simp] theorem threads_setThread :
    (p.setThread t th).threads = p.threads.setIfInBounds t.index th := rfl

@[simp] theorem entries_nullify : (p.nullify js).entries = p.entries := rfl
@[simp] theorem directory_nullify : (p.nullify js).directory = p.directory := rfl
@[simp] theorem log_nullify : (p.nullify js).log = p.log := rfl

@[simp] theorem directory_enroll :
    (p.enroll c s).directory = (p.directory.insert ⟨p.entries.size⟩).2 := rfl
@[simp] theorem log_enroll : (p.enroll c s).log = p.log := rfl

theorem entry?_enroll (e' : EntryId) :
    entry? (p.enroll c s) e' = if e' = ⟨p.entries.size⟩ then some (.fresh c) else p.entry? e' := by
  unfold enroll entry?
  rw [Array.getElem?_push]
  obtain ⟨i⟩ := e'
  simp

end Fields

section Entry

variable {p : Process E σ} {e e' : EntryId} {x : Entry E.Context}

theorem entry?_modify (f : Entry E.Context → Entry E.Context) (hx : p.entry? e = some x) :
    entry? (p.modifyEntry e f) e = some (f x) := by
  rw [entry?_modifyEntry, if_pos rfl, hx, Option.map_some]

/-- The entry that is to be changed is changed. -/
theorem eq_of_modify {f : Entry E.Context → Entry E.Context} {y : Entry E.Context}
    (hx : p.entry? e = some x) (here : e' = e) (hy : entry? (p.modifyEntry e' f) e = some y) :
    y = f x := by
  subst here
  exact Option.some.inj (hy.symm.trans (entry?_modify f hx))

theorem entry?_modify_of_ne (f : Entry E.Context → Entry E.Context) (h : e' ≠ e) :
    entry? (p.modifyEntry e' f) e = p.entry? e := by
  rw [entry?_modifyEntry, if_neg (Ne.symm h)]

/-- A new entry is none of those that were there. -/
theorem entry?_enroll_of_some (c : E.Context) (s : Settings) (hx : p.entry? e = some x) :
    entry? (p.enroll c s) e = some x := by
  have other : e ≠ ⟨p.entries.size⟩ := by
    rintro rfl
    rw [entry?_size] at hx
    cases hx
  rw [entry?_enroll, if_neg other, hx]

end Entry

/-! ## Parts of steps -/

theorem modifyEntry_congr {p : Process E σ} {e : EntryId} {x : Entry E.Context}
    (hx : p.entry? e = some x) {f g : Entry E.Context → Entry E.Context} (h : f x = g x) :
    p.modifyEntry e f = p.modifyEntry e g := by
  have key : p.entries.modify e.index f = p.entries.modify e.index g := by
    refine Array.ext_getElem? fun i => ?_
    rw [Array.getElem?_modify, Array.getElem?_modify]
    split_ifs with hi
    · subst hi
      rw [show p.entries[e.index]? = some x from hx]
      simp [h]
    · rfl
  unfold modifyEntry
  rw [key]

theorem modifyEntry_modifyEntry (p : Process E σ) (e : EntryId)
    (f g : Entry E.Context → Entry E.Context) :
    (p.modifyEntry e f).modifyEntry e g = p.modifyEntry e (g ∘ f) := by
  have key : (p.entries.modify e.index f).modify e.index g = p.entries.modify e.index (g ∘ f) := by
    refine Array.ext_getElem? fun i => ?_
    simp only [Array.getElem?_modify]
    split_ifs
    · rw [Option.map_map]
    · rfl
  unfold modifyEntry
  rw [key]

theorem giveBack_eq (p : Process E σ) (e : EntryId) :
    p.giveBack e = p.modifyEntry e Entry.letGo := rfl

theorem release_eq {p : Process E σ} {e : EntryId} {x : Entry E.Context}
    (hx : p.entry? e = some x) :
    p.release e = (p.modifyEntry e Entry.dropEngine).report x.farewell := by
  unfold release Entry.farewell
  rw [hx]
  cases hc : x.engine with
  | none => simp only [hc]; rfl
  | some c => simp only [hc]; rfl

/-- The lock is had by anyone for whom it is open. -/
theorem acquire?_eq_some_iff {p q : Process E σ} {t : ThreadId} {e : EntryId} :
    p.acquire? t e = some q ↔
      ∃ x, p.entry? e = some x ∧ x.Open t ∧ q = p.modifyEntry e (Entry.grab t) := by
  unfold acquire?
  cases hx : p.entry? e with
  | none => simp
  | some x =>
    simp only [Option.some.injEq, exists_eq_left']
    cases hl : x.lock with
    | none =>
      have hgrab : p.modifyEntry e (fun x => { x with lock := some (t, 1) })
          = p.modifyEntry e (Entry.grab t) :=
        modifyEntry_congr hx (by simp [Entry.grab, Entry.holds, hl])
      simp [Entry.Open, hl, hgrab, eq_comm]
    | some l =>
      obtain ⟨owner, n⟩ := l
      by_cases ho : owner = t
      · subst ho
        have hgrab : p.modifyEntry e (fun x => { x with lock := some (owner, n + 1) })
            = p.modifyEntry e (Entry.grab owner) :=
          modifyEntry_congr hx (by simp [Entry.grab, Entry.holds, hl])
        simp [Entry.Open, hl, hgrab, eq_comm]
      · simp [Entry.Open, hl, ho]

/-- The gate is passed from within, or taken. -/
theorem entrance?_eq_some {th : Thread E.Context σ} {t : ThreadId} {e : EntryId}
    {x x' : Entry E.Context} {direct : Bool} (h : entrance? th t e x = some (direct, x')) :
    direct = true ∧ e ∈ th.active ∧ x' = x ∨
      direct = false ∧ e ∉ th.active ∧ x.gate = none ∧ x' = { x with gate := some t } := by
  unfold entrance? at h
  split_ifs at h with ha
  · obtain ⟨rfl, rfl⟩ := Prod.mk.inj (Option.some.inj h)
    exact Or.inl ⟨rfl, by simpa using ha, rfl⟩
  · split at h
    · next hg =>
      obtain ⟨rfl, rfl⟩ := Prod.mk.inj (Option.some.inj h)
      exact Or.inr ⟨rfl, by simpa using ha, hg, rfl⟩
    · cases h

end Process

end Drawbridge
