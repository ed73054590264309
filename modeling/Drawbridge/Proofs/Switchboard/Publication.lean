import Drawbridge.Switchboard
import Mathlib.Data.List.Induction

/-!
# Published bindings

A switchboard after any moves: bindings are made, published and dropped in any order.
`get?_after` says what is published under a name, and `resolve_eq_some_iff` which calls find their
binding.  The board looks at the name alone: a binding that was never published resolves while
another one of its name is.
-/

namespace Drawbridge

/-! ## The last entry of a list -/

section Last

variable {α : Type*} {l earlier later : List α} {last x : α}

/-- An entry of a list is the last one or is before it. -/
theorem split_concat (h : l ++ [last] = earlier ++ x :: later) :
    later = [] ∧ l = earlier ∧ last = x ∨
      ∃ rest, later = rest ++ [last] ∧ l = earlier ++ x :: rest := by
  rcases List.eq_nil_or_concat later with rfl | ⟨rest, final, rfl⟩
  · obtain ⟨rfl, same⟩ := List.append_inj' h rfl
    exact Or.inl ⟨rfl, rfl, List.singleton_inj.1 same⟩
  · rw [List.concat_eq_append, ← List.cons_append, ← List.append_assoc] at h
    obtain ⟨rfl, same⟩ := List.append_inj' h rfl
    obtain rfl := List.singleton_inj.1 same
    exact Or.inr ⟨rest, List.concat_eq_append, rfl⟩

/-- What came with only certain entries behind it came last, or had come so before one of these. -/
theorem exists_split_concat_iff (p : α → Prop) :
    (∃ earlier later, l ++ [last] = earlier ++ x :: later ∧ ∀ y ∈ later, p y) ↔
      last = x ∨ p last ∧ ∃ earlier later, l = earlier ++ x :: later ∧ ∀ y ∈ later, p y := by
  constructor
  · rintro ⟨earlier, later, h, behind⟩
    rcases split_concat h with ⟨-, -, same⟩ | ⟨rest, rfl, before⟩
    · exact Or.inl same
    · refine Or.inr ⟨behind last (by simp), earlier, rest, before, fun y hy => ?_⟩
      exact behind y (List.mem_append_left _ hy)
  · rintro (rfl | ⟨hlast, earlier, later, rfl, behind⟩)
    · exact ⟨l, [], rfl, nofun⟩
    · refine ⟨earlier, later ++ [last], by simp, fun y hy => ?_⟩
      rcases List.mem_append.1 hy with hy | hy
      · exact behind y hy
      · exact List.mem_singleton.1 hy ▸ hlast

end Last

namespace Switchboard

/-! ## Moves -/

/-- What is done to a board. -/
inductive Move where
  | prepare (name : String) (roster : Roster) (object : ObjectId)
  | commit (b : Binding)
  | clear
  deriving DecidableEq

/-- The board after a move. -/
def apply (board : Switchboard) : Move → Switchboard
  | .prepare name roster object => (board.prepare name roster object).2
  | .commit b => board.commit b
  | .clear => board.clear

/-- The board after moves in order. -/
def after (board : Switchboard) (moves : List Move) : Switchboard := moves.foldl apply board

/-- The bindings that moves make, in order. -/
def made (board : Switchboard) : List Move → List Binding
  | [] => []
  | .prepare name roster object :: rest =>
    (board.prepare name roster object).1 :: made (board.prepare name roster object).2 rest
  | m :: rest => made (board.apply m) rest

/-- Moves of an empty board that publish only bindings made before. -/
def Lawful (moves : List Move) : Prop :=
  ∀ earlier b later, moves = earlier ++ .commit b :: later → b ∈ made .empty earlier

@[simp] theorem after_nil (board : Switchboard) : board.after [] = board := rfl

theorem after_singleton (board : Switchboard) (m : Move) : board.after [m] = board.apply m := rfl

@[simp] theorem after_concat (board : Switchboard) (moves : List Move) (m : Move) :
    board.after (moves ++ [m]) = (board.after moves).apply m := by
  simp [after]

/-! ## What is published -/

@[simp] theorem get?_empty (name : String) : empty.get? name = none := rfl

@[simp] theorem get?_prepare (board : Switchboard) (n : String) (roster : Roster)
    (object : ObjectId) (name : String) :
    (board.prepare n roster object).2.get? name = board.get? name := rfl

@[simp] theorem get?_clear (board : Switchboard) (name : String) :
    board.clear.get? name = none := rfl

theorem get?_commit (board : Switchboard) (b : Binding) (name : String) :
    (board.commit b).get? name = if b.name = name then some b else board.get? name := by
  unfold get? commit
  by_cases h : b.name = name
  · rw [List.find?_cons_of_pos (by simpa using h), if_pos h]
  · rw [List.find?_cons_of_neg (by simpa using h), if_neg h, List.find?_filter]
    congr 1
    funext c
    by_cases hc : c.name = name
    · simp [hc, Ne.symm h]
    · simp [hc]

/-- The move may change what is published. -/
def Move.shows : Move → Bool
  | .prepare .. => false
  | .commit _ | .clear => true

/-- What is published is up to the moves that show. -/
theorem published_after (board : Switchboard) (moves : List Move) :
    (board.after moves).published = (board.after (moves.filter Move.shows)).published := by
  induction moves using List.reverseRecOn with
  | nil => rfl
  | append_singleton moves m ih =>
    rw [List.filter_append, after_concat]
    cases m with
    | prepare n roster object => exact ih.trans (congrArg _ (congrArg _ (List.append_nil _).symm))
    | commit b =>
      rw [List.filter_cons_of_pos rfl, List.filter_nil, after_concat]
      exact congrArg (fun bs => b :: bs.filter (·.name != b.name)) ih
    | clear =>
      rw [List.filter_cons_of_pos rfl, List.filter_nil, after_concat]
      rfl

/-- The binding was published, and the board was not cleared after that. -/
def Stands (moves : List Move) (b : Binding) : Prop :=
  ∃ earlier later, moves = earlier ++ .commit b :: later ∧ Move.clear ∉ later

theorem not_stands_nil (b : Binding) : ¬ Stands [] b := by
  rintro ⟨earlier, later, h, -⟩
  simp at h

theorem stands_concat (moves : List Move) (m : Move) (b : Binding) :
    Stands (moves ++ [m]) b ↔ m = .commit b ∨ m ≠ .clear ∧ Stands moves b := by
  have uncleared (later : List Move) : .clear ∉ later ↔ ∀ m ∈ later, m ≠ .clear :=
    ⟨fun h m hm e => h (e ▸ hm), fun h hc => h _ hc rfl⟩
  simp only [Stands, uncleared]
  exact exists_split_concat_iff _

/-- The bindings that stand, the latest first. -/
def standing (moves : List Move) : List Binding :=
  moves.foldl (fun bs m => match m with
    | .prepare .. => bs
    | .commit b => b :: bs
    | .clear => []) []

theorem mem_standing_iff (moves : List Move) (b : Binding) :
    b ∈ standing moves ↔ Stands moves b := by
  induction moves using List.reverseRecOn with
  | nil => simpa [standing] using not_stands_nil b
  | append_singleton moves m ih =>
    rw [stands_concat, ← ih]
    cases m with
    | prepare n roster object => simp [standing]
    | commit c => simp [standing, eq_comm]
    | clear => simp [standing]

/-- Under each name the binding is published that was committed last. -/
theorem get?_after (moves : List Move) (name : String) :
    (empty.after moves).get? name = (standing moves).find? (·.name == name) := by
  induction moves using List.reverseRecOn with
  | nil => rfl
  | append_singleton moves m ih =>
    rw [after_concat]
    cases m with
    | prepare n roster object =>
      rw [apply, get?_prepare, ih]
      simp [standing]
    | commit b =>
      rw [apply, get?_commit, ih]
      by_cases h : b.name = name <;> simp [standing, h]
    | clear =>
      rw [apply, get?_clear]
      simp [standing]

theorem isSome_get?_after_iff (moves : List Move) (name : String) :
    ((empty.after moves).get? name).isSome ↔ ∃ c, Stands moves c ∧ c.name = name := by
  rw [get?_after, List.find?_isSome]
  simp [mem_standing_iff]

/-! ## What resolves -/

theorem resolve_eq_some_iff (board : Switchboard) (target : CallTarget) (b : Binding) :
    board.resolve target = some b ↔ b = target.binding ∧ (board.get? b.name).isSome := by
  unfold resolve
  rw [Option.map_eq_some_iff]
  constructor
  · rintro ⟨c, hc, rfl⟩
    exact ⟨rfl, by simp [hc]⟩
  · rintro ⟨rfl, h⟩
    obtain ⟨c, hc⟩ := Option.isSome_iff_exists.1 h
    exact ⟨c, hc, rfl⟩

/-- A call finds the binding it was made for and no other, and finds it as long as any binding of
that name stands. -/
theorem resolve_after_eq_some_iff (moves : List Move) (target : CallTarget) (b : Binding) :
    (empty.after moves).resolve target = some b ↔
      b = target.binding ∧ ∃ c, Stands moves c ∧ c.name = b.name := by
  rw [resolve_eq_some_iff, isSome_get?_after_iff]

/-- A binding that was never published resolves, and so does one that a clear dropped: another
binding of the name stands in both cases. -/
theorem resolve_without_standing :
    (∃ moves target, Lawful moves ∧ target.binding ∈ made .empty moves ∧
      (empty.after moves).resolve target = some target.binding ∧
      Move.commit target.binding ∉ moves) ∧
    ∃ moves target, Lawful moves ∧ target.binding ∈ made .empty moves ∧
      (empty.after moves).resolve target = some target.binding ∧
      Move.commit target.binding ∈ moves ∧ ¬ Stands moves target.binding := by
  let first : Move := .prepare "clock" ⟨"Clock", []⟩ ⟨0⟩
  let second : Move := .prepare "clock" ⟨"Clock", []⟩ ⟨1⟩
  let one : Binding := ⟨1, "clock", ⟨"Clock", []⟩, ⟨0⟩⟩
  let two : Binding := ⟨2, "clock", ⟨"Clock", []⟩, ⟨1⟩⟩
  constructor
  · refine ⟨[first, second, .commit one], ⟨two, 0⟩, ?_, by decide, by decide, by decide⟩
    intro earlier b later h
    rcases earlier with _ | ⟨_, _ | ⟨_, _ | ⟨_, earlier⟩⟩⟩ <;> simp [first, second] at h
    obtain ⟨rfl, rfl, rfl, -⟩ := h
    decide
  · refine ⟨[first, .commit one, .clear, second, .commit two], ⟨one, 0⟩, ?_, by decide, by decide,
      by decide, ?_⟩
    · intro earlier b later h
      rcases earlier with _ | ⟨_, _ | ⟨_, _ | ⟨_, _ | ⟨_, _ | ⟨_, earlier⟩⟩⟩⟩⟩ <;>
        simp [first, second] at h
      · obtain ⟨rfl, rfl, -⟩ := h
        decide
      · obtain ⟨rfl, rfl, rfl, rfl, rfl, -⟩ := h
        decide
    · rw [← mem_standing_iff]
      decide

end Switchboard

end Drawbridge
