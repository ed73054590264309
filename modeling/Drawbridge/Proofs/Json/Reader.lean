import Drawbridge.Json.Cursor
import Drawbridge.Proofs.Text.Digits

/-!
# What readers take

`p.Takes input a rest` says that a reader gives `a` for the text `input` and stops in front of `rest`,
whatever the place it starts from is called.  There is one rule for each step that readers are made of.

`p.Fails input` says that it gives nothing, and `p.Decides input Good rest` joins the two: it gives the
one good result where there is one, and nothing where there is none.
-/

namespace Drawbridge.Json.Reader

variable {α β : Type} {p : Reader α} {a : α} {b : β} {input mid rest : List Char}

/-- Wherever the input stands in a text, the reader gives `a` and leaves `rest`. -/
def Takes (p : Reader α) (input : List Char) (a : α) (rest : List Char) : Prop :=
  ∀ line column, ∃ line' column', p.run ⟨input, line, column⟩ = .ok (a, ⟨rest, line', column'⟩)

/-! ## Sequences -/

theorem takes_pure (a : α) (rest : List Char) : (pure a : Reader α).Takes rest a rest :=
  fun line column => ⟨line, column, rfl⟩

theorem Takes.bind {f : α → Reader β} (hp : p.Takes input a mid) (hf : (f a).Takes mid b rest) :
    (p >>= f).Takes input b rest := by
  intro line column
  obtain ⟨line, column, hp⟩ := hp line column
  obtain ⟨line, column, hf⟩ := hf line column
  refine ⟨line, column, ?_⟩
  rw [StateT.run_bind, hp]
  exact hf

theorem Takes.map (f : α → β) (hp : p.Takes input a rest) : (f <$> p).Takes input (f a) rest := by
  intro line column
  obtain ⟨line, column, hp⟩ := hp line column
  refine ⟨line, column, ?_⟩
  rw [StateT.run_map, hp]
  rfl

theorem Takes.discard (hp : p.Takes input a rest) : (discard p).Takes input () rest :=
  hp.map _

theorem Takes.seqRight {q : Reader β} (hp : p.Takes input a mid) (hq : q.Takes mid b rest) :
    (p *> q).Takes input b rest := by
  rw [seqRight_eq_bind]
  exact hp.bind hq

theorem ite_bind (q : Prop) [Decidable q] (x y : Reader α) (f : α → Reader β) :
    (if q then x else y) >>= f = if q then x >>= f else y >>= f := by
  split_ifs <;> rfl

/-! ## Characters -/

theorem takes_peek? (rest : List Char) : peek?.Takes rest rest.head? rest :=
  fun line column => ⟨line, column, rfl⟩

theorem takes_fuel (rest : List Char) : fuel.Takes rest (rest.length + 1) rest :=
  fun line column => ⟨line, column, rfl⟩

/-- The cursor behind a character. -/
theorem next_cons (c : Char) (rest : List Char) (line column : Nat) :
    ∃ line' column', Cursor.next ⟨c :: rest, line, column⟩ = ⟨rest, line', column'⟩ := by
  rw [Cursor.next]
  split_ifs
  · exact ⟨_, _, rfl⟩
  · exact ⟨_, _, rfl⟩

theorem takes_advance (c : Char) (rest : List Char) : advance.Takes (c :: rest) () rest := by
  intro line column
  obtain ⟨line', column', h⟩ := next_cons c rest line column
  exact ⟨line', column', congrArg (fun cursor => Except.ok ((), cursor)) h⟩

theorem takes_word (expected rest : List Char) : (word expected).Takes (expected ++ rest) () rest := by
  induction expected with
  | nil => exact takes_pure () rest
  | cons c expected ih =>
    refine (takes_peek? _).bind ?_
    simp only [List.cons_append, List.head?_cons, if_pos]
    exact (takes_advance c _).seqRight ih

theorem takes_digits {ds : List Char} (hds : ∀ d ∈ ds, d.isDigit = true)
    (stop : ∀ c ∈ rest.head?, c.isDigit = false) : digits.Takes (ds ++ rest) ds rest := by
  intro line column
  refine ⟨line, column + ds.length, ?_⟩
  change Except.ok ((ds ++ rest).takeWhile Char.isDigit, _) = _
  rw [takeWhile_run hds stop, List.drop_left]

/-! ## Blanks -/

theorem dropBlank_blanks {blanks : List Char} (hblanks : ∀ c ∈ blanks, isBlank c = true)
    (stop : ∀ c ∈ rest.head?, isBlank c = false) {n : Nat} (hn : blanks.length ≤ n)
    (line column : Nat) :
    ∃ line' column', dropBlank n ⟨blanks ++ rest, line, column⟩ = ⟨rest, line', column'⟩ := by
  induction blanks generalizing n line column with
  | nil =>
    refine ⟨line, column, ?_⟩
    cases n with
    | zero => rfl
    | succ n =>
      cases rest with
      | nil => rfl
      | cons c rest => simp [dropBlank, stop c rfl]
  | cons c blanks ih =>
    cases n with
    | zero => simp at hn
    | succ n =>
      rw [List.forall_mem_cons] at hblanks
      obtain ⟨line, column, moved⟩ := next_cons c (blanks ++ rest) line column
      obtain ⟨line, column, dropped⟩ := ih hblanks.2 (Nat.le_of_succ_le_succ hn) line column
      refine ⟨line, column, ?_⟩
      rw [← dropped, ← moved]
      simp [dropBlank, hblanks.1]

/-- Blanks are read, and the character after them is not. -/
theorem takes_peekToken? (blanks : List Char) (hblanks : ∀ c ∈ blanks, isBlank c = true)
    (stop : ∀ c ∈ rest.head?, isBlank c = false) :
    peekToken?.Takes (blanks ++ rest) rest.head? rest := by
  intro line column
  obtain ⟨line', column', dropped⟩ := dropBlank_blanks hblanks stop (n := (blanks ++ rest).length)
    (by simp) line column
  refine ⟨line', column', ?_⟩
  change Except.ok ((dropBlank _ _).rest.head?, dropBlank _ _) = _
  rw [dropped]

theorem takes_peekToken?_cons {c : Char} (hc : isBlank c = false) (rest : List Char) :
    peekToken?.Takes (c :: rest) (some c) (c :: rest) :=
  takes_peekToken? [] nofun (by simpa using hc)

/-! ## Failures -/

/-- Wherever the input stands in a text, the reader gives nothing. -/
def Fails (p : Reader α) (input : List Char) : Prop :=
  ∀ line column, ∃ fault, p.run ⟨input, line, column⟩ = .error fault

theorem fails_failAfter (bytes : Nat) (reason : Reason) (input : List Char) :
    (failAfter bytes reason : Reader α).Fails input :=
  fun _ _ => ⟨_, rfl⟩

theorem fails_fail (reason : Reason) (input : List Char) : (fail reason : Reader α).Fails input :=
  fails_failAfter 0 reason input

theorem fails_failNext (reason : Reason) (input : List Char) :
    (failNext reason : Reader α).Fails input :=
  fails_failAfter 1 reason input

theorem Fails.bind {f : α → Reader β} (hp : p.Fails input) : (p >>= f).Fails input := by
  intro line column
  obtain ⟨fault, hp⟩ := hp line column
  exact ⟨fault, by rw [StateT.run_bind, hp]; rfl⟩

theorem Takes.bind_fails {f : α → Reader β} (hp : p.Takes input a mid) (hf : (f a).Fails mid) :
    (p >>= f).Fails input := by
  intro line column
  obtain ⟨line, column, hp⟩ := hp line column
  obtain ⟨fault, hf⟩ := hf line column
  exact ⟨fault, by rw [StateT.run_bind, hp]; exact hf⟩

theorem Takes.seqRight_fails {q : Reader β} (hp : p.Takes input a mid) (hq : q.Fails mid) :
    (p *> q).Fails input := by
  rw [seqRight_eq_bind]
  exact hp.bind_fails hq

/-! ## Results of one sort -/

/-- If the reader gives a result, it is one of these. -/
def Yields (p : Reader α) (input : List Char) (P : α → Prop) : Prop :=
  ∀ line column a cursor, p.run ⟨input, line, column⟩ = .ok (a, cursor) → P a

variable {P : α → Prop} {Q : β → Prop}

theorem yields_pure (ha : P a) (input : List Char) : (pure a : Reader α).Yields input P := by
  intro line column b cursor h
  cases h
  exact ha

theorem Fails.yields (hp : p.Fails input) : p.Yields input P := by
  intro line column a cursor h
  obtain ⟨fault, hp⟩ := hp line column
  rw [hp] at h
  cases h

theorem Yields.bind {f : α → Reader β} (hp : p.Yields input P)
    (hf : ∀ a mid, P a → (f a).Yields mid Q) : (p >>= f).Yields input Q := by
  intro line column b cursor h
  rw [StateT.run_bind] at h
  cases hrun : p.run ⟨input, line, column⟩ with
  | error fault =>
    rw [hrun] at h
    cases h
  | ok out =>
    rw [hrun] at h
    exact hf out.1 out.2.rest (hp _ _ _ _ hrun) out.2.line out.2.column b cursor h

/-- Whatever comes before, the last step decides of which sort the results are. -/
theorem yields_bind {f : α → Reader β} (hf : ∀ a mid, (f a).Yields mid Q) (input : List Char) :
    (p >>= f).Yields input Q :=
  Yields.bind (P := fun _ => True) (fun _ _ _ _ _ => trivial) fun a mid _ => hf a mid

theorem Takes.bind_yields {f : α → Reader β} (hp : p.Takes input a mid)
    (hf : (f a).Yields mid Q) : (p >>= f).Yields input Q := by
  intro line column b cursor h
  obtain ⟨line, column, hp⟩ := hp line column
  rw [StateT.run_bind, hp] at h
  exact hf line column b cursor h

theorem Yields.bind_fails {f : α → Reader β} (hp : p.Yields input P)
    (hf : ∀ a mid, P a → (f a).Fails mid) : (p >>= f).Fails input := by
  intro line column
  rw [StateT.run_bind]
  cases hrun : p.run ⟨input, line, column⟩ with
  | error fault => exact ⟨fault, rfl⟩
  | ok out =>
    exact hf out.1 out.2.rest (hp _ _ _ _ hrun) out.2.line out.2.column

theorem bind_fails {f : α → Reader β} (hf : ∀ a mid, (f a).Fails mid) (input : List Char) :
    (p >>= f).Fails input :=
  Yields.bind_fails (P := fun _ => True) (fun _ _ _ _ _ => trivial) fun a mid _ => hf a mid

/-! ## Decisions -/

/-- Where there is one good result the reader gives it and leaves `rest`; where there is none it
gives nothing. -/
def Decides (p : Reader α) (input : List Char) (Good : α → Prop) (rest : List Char) : Prop :=
  (∃ a, (∀ b, Good b ↔ b = a) ∧ p.Takes input a rest) ∨ ((∀ b, ¬ Good b) ∧ p.Fails input)

theorem Takes.decides (hp : p.Takes input a rest) (good : ∀ b, P b ↔ b = a) :
    p.Decides input P rest :=
  .inl ⟨a, good, hp⟩

theorem Fails.decides (hp : p.Fails input) (good : ∀ b, ¬ P b) : p.Decides input P rest :=
  .inr ⟨good, hp⟩

theorem Decides.congr {P' : α → Prop} (hp : p.Decides input P rest) (h : ∀ a, P' a ↔ P a) :
    p.Decides input P' rest := by
  simp only [Decides, h]
  exact hp

theorem Takes.bind_decides {f : α → Reader β} (hp : p.Takes input a mid)
    (hf : (f a).Decides mid Q rest) : (p >>= f).Decides input Q rest := by
  rcases hf with ⟨b, good, hf⟩ | ⟨good, hf⟩
  · exact .inl ⟨b, good, hp.bind hf⟩
  · exact .inr ⟨good, hp.bind_fails hf⟩

theorem Takes.seqRight_decides {q : Reader β} (hp : p.Takes input a mid)
    (hq : q.Decides mid Q rest) : (p *> q).Decides input Q rest := by
  rw [seqRight_eq_bind]
  exact hp.bind_decides hq

theorem Decides.bind {f : α → Reader β} {Q : α → β → Prop} (hp : p.Decides input P mid)
    (hf : ∀ a, P a → (f a).Decides mid (Q a) rest) :
    (p >>= f).Decides input (fun b => ∃ a, P a ∧ Q a b) rest := by
  rcases hp with ⟨a, good, hp⟩ | ⟨none, hp⟩
  · refine (hp.bind_decides (hf a ((good a).2 rfl))).congr fun b => ?_
    simp only [good]
    exact ⟨fun ⟨_, h, hb⟩ => h ▸ hb, fun hb => ⟨a, rfl, hb⟩⟩
  · exact .inr ⟨fun b ⟨a, ha, _⟩ => none a ha, hp.bind⟩

theorem Decides.map (f : α → β) (hp : p.Decides input P rest) :
    (f <$> p).Decides input (fun b => ∃ a, P a ∧ b = f a) rest := by
  rw [map_eq_pure_bind]
  exact hp.bind fun a _ => (takes_pure (f a) rest).decides fun _ => Iff.rfl

end Drawbridge.Json.Reader
