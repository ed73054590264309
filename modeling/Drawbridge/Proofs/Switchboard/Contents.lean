import Drawbridge.Proofs.Switchboard.Names

/-!
# What a switchboard holds

A board is a map from names to bindings in which the last commit under a name wins, whatever the
identity of the binding (`get?_after_iff_current`).  `names` lists the names of this map in strictly
rising order, `size` counts them, and the identities that `prepare` gives out are the numbers from 1
on, in order, through commits and clears (`map_id_made`).  `refines_last_commit` puts these together.
-/

namespace Drawbridge.Switchboard

variable {board : Switchboard} {moves : List Move}

/-! ## The binding committed last -/

/-- Since the last clear the binding was committed, and after it none of its name. -/
def Current (moves : List Move) (b : Binding) : Prop :=
  ∃ earlier later, moves = earlier ++ .commit b :: later ∧ .clear ∉ later ∧
    ∀ c, .commit c ∈ later → c.name ≠ b.name

theorem not_current_nil (b : Binding) : ¬ Current [] b := by
  rintro ⟨earlier, later, h, -⟩
  simp at h

theorem current_concat (moves : List Move) (m : Move) (b : Binding) :
    Current (moves ++ [m]) b ↔
      m = .commit b ∨ m ≠ .clear ∧ (∀ c, m = .commit c → c.name ≠ b.name) ∧ Current moves b := by
  have kept (later : List Move) : (.clear ∉ later ∧ ∀ c, .commit c ∈ later → c.name ≠ b.name) ↔
      ∀ m ∈ later, m ≠ .clear ∧ ∀ c, m = .commit c → c.name ≠ b.name :=
    ⟨fun h m hm => ⟨fun e => h.1 (e ▸ hm), fun c e => h.2 c (e ▸ hm)⟩,
      fun h => ⟨fun hc => (h _ hc).1 rfl, fun c hc => (h _ hc).2 c rfl⟩⟩
  simp only [Current, kept, ← and_assoc (a := m ≠ .clear)]
  exact exists_split_concat_iff fun m : Move =>
    m ≠ .clear ∧ ∀ c, m = .commit c → c.name ≠ b.name

theorem get?_after_iff_current (moves : List Move) (name : String) (b : Binding) :
    (empty.after moves).get? name = some b ↔ b.name = name ∧ Current moves b := by
  induction moves using List.reverseRecOn with
  | nil =>
    refine iff_of_false (fun h => ?_) fun h => not_current_nil b h.2
    cases h
  | append_singleton moves m ih =>
    rw [after_concat, current_concat]
    cases m with
    | prepare n roster object =>
      rw [apply, get?_prepare, ih]
      simp
    | commit c =>
      rw [apply, get?_commit]
      split_ifs with h
      · constructor
        · rintro ⟨rfl⟩
          exact ⟨h, Or.inl rfl⟩
        · rintro ⟨hb, hc | ⟨-, other, -⟩⟩
          · rw [Move.commit.inj hc]
          · exact absurd (h.trans hb.symm) (other c rfl)
      · rw [ih]
        refine and_congr_right fun hb => ?_
        subst hb
        constructor
        · exact fun current => Or.inr ⟨by simp, fun d hd => Move.commit.inj hd ▸ h, current⟩
        · rintro (hc | ⟨-, -, current⟩)
          · exact absurd (congrArg Binding.name (Move.commit.inj hc)) h
          · exact current
    | clear =>
      rw [apply, get?_clear]
      simp

/-! ## Names -/

theorem unique_after (moves : List Move) : (empty.after moves).Unique := by
  induction moves using List.reverseRecOn with
  | nil => exact unique_empty
  | append_singleton moves m ih =>
    rw [after_concat]
    cases m with
    | prepare name roster object => exact ih.prepare name roster object
    | commit b => exact ih.commit b
    | clear => exact unique_clear _

/-- The names are listed in strictly rising order. -/
theorem Unique.sorted_names (unique : board.Unique) : board.names.Pairwise (· < ·) := by
  refine (board.pairwise_names.and unique.nodup_names).imp fun {a b} h => ?_
  obtain ⟨le, ne⟩ := h
  exact String.not_le.1 fun ge => ne (String.le_antisymm (of_decide_eq_true le) ge)

theorem length_names (board : Switchboard) : board.names.length = board.size := by
  rw [names, List.length_mergeSort, List.length_map, size]

/-! ## Identities -/

theorem made_cons (board : Switchboard) (m : Move) (moves : List Move) :
    made board (m :: moves) = made board [m] ++ made (board.apply m) moves := by
  cases m <;> rfl

theorem made_append (board : Switchboard) (moves moves' : List Move) :
    made board (moves ++ moves') = made board moves ++ made (board.after moves) moves' := by
  induction moves generalizing board with
  | nil => rfl
  | cons m moves ih =>
    rw [List.cons_append, made_cons, made_cons board m moves, ih, List.append_assoc]
    rfl

/-- The identities that moves give out go on from the last one given before. -/
theorem map_id_made (board : Switchboard) (moves : List Move) :
    (made board moves).map (·.id) = List.range' (board.prepared + 1) (made board moves).length := by
  induction moves generalizing board with
  | nil => rfl
  | cons m moves ih =>
    cases m with
    | prepare name roster object =>
      rw [made, List.map_cons, ih, List.length_cons, List.range'_succ]
      rfl
    | commit b => exact ih _
    | clear => exact ih _

theorem lawful_nil : Lawful [] := by
  intro earlier b later h
  simp at h

theorem Lawful.concat (lawful : Lawful moves) {m : Move}
    (known : ∀ b, m = .commit b → b ∈ made .empty moves) : Lawful (moves ++ [m]) := by
  intro earlier b later h
  rcases split_concat h with ⟨-, rfl, committed⟩ | ⟨rest, -, before⟩
  · exact known b committed
  · exact lawful earlier b rest before

/-- What is published was made before, where only that is committed. -/
theorem Lawful.mem_made {b : Binding} (lawful : Lawful moves) (current : Current moves b) :
    b ∈ made .empty moves := by
  obtain ⟨earlier, later, rfl, -⟩ := current
  rw [made_append]
  exact List.mem_append_left _ (lawful earlier b later rfl)

/-! ## The map -/

/-- A switchboard is a map in which the last commit wins. -/
theorem refines_last_commit (moves : List Move) :
    let board := empty.after moves
    -- under a name is the binding committed there last since the last clear, or none
    ((∀ name b, board.get? name = some b ↔ b.name = name ∧ Current moves b) ∧
      ∀ name, board.get? name = none ↔ ∀ b, Stands moves b → b.name ≠ name) ∧
    -- the names that have one are listed in strictly rising order, and counted
    ((∀ name, name ∈ board.names ↔ ∃ b, b.name = name ∧ Current moves b) ∧
      board.names.Pairwise (· < ·) ∧ board.size = board.names.length ∧
      (board.isEmpty = true ↔ board.size = 0)) ∧
    -- a commit shows under its own name and changes nothing under another
    (∀ b, (board.commit b).get? b.name = some b ∧
      ∀ name, name ≠ b.name → (board.commit b).get? name = board.get? name) ∧
    -- identities rise strictly, each one higher than the last, and what is published has one
    ((made .empty moves).map (·.id) = List.range' 1 (made .empty moves).length ∧
      (made .empty moves).Pairwise (fun a b => a.id < b.id) ∧
      (Lawful moves → ∀ name b, board.get? name = some b → b ∈ made .empty moves)) := by
  intro board
  have current := get?_after_iff_current moves
  have ids := map_id_made .empty moves
  refine ⟨⟨current, fun name => ?_⟩, ⟨fun name => ?_, (unique_after moves).sorted_names,
    (length_names board).symm, ?_⟩, fun b => ⟨?_, fun name hne => ?_⟩, ids, ?_, ?_⟩
  · rw [← Option.not_isSome_iff_eq_none, isSome_get?_after_iff]
    simp
  · rw [mem_names_iff, Option.isSome_iff_exists]
    simp only [board, current]
  · rw [isEmpty, size, List.isEmpty_iff_length_eq_zero]
  · rw [get?_commit, if_pos rfl]
  · rw [get?_commit, if_neg (Ne.symm hne)]
  · have rising : ((made .empty moves).map (·.id)).Pairwise (· < ·) := by
      rw [ids]
      exact List.pairwise_lt_range'
    exact List.pairwise_map.1 rising
  · exact fun lawful name b hb => lawful.mem_made ((current name b).1 hb).2

/-- Two bindings of a clock are made, and the older one is committed last, twice: it is published
although its identity is the lower one, and after a clear the younger one can be again. -/
theorem refines_last_commit_older :
    let first : Move := .prepare "clock" ⟨"Clock", []⟩ ⟨0⟩
    let second : Move := .prepare "clock" ⟨"Clock", []⟩ ⟨1⟩
    let one : Binding := ⟨1, "clock", ⟨"Clock", []⟩, ⟨0⟩⟩
    let two : Binding := ⟨2, "clock", ⟨"Clock", []⟩, ⟨1⟩⟩
    let moves := [first, second, .commit two, .commit one, .commit one]
    (empty.after moves).get? "clock" = some one ∧ (empty.after moves).names.length = 1 ∧
    one ∈ made .empty moves ∧
    (empty.after (moves ++ [.clear])).get? "clock" = none ∧
    (empty.after (moves ++ [.clear, .commit two])).get? "clock" = some two := by
  intro first second one two moves
  have map := refines_last_commit moves
  have lawful : Lawful moves :=
    ((((lawful_nil.concat (m := first) nofun).concat (m := second) nofun).concat
      (by rintro _ ⟨⟩; decide)).concat (by rintro _ ⟨⟩; decide)).concat (by rintro _ ⟨⟩; decide)
  have published : (empty.after moves).get? "clock" = some one :=
    (map.1.1 "clock" one).2 ⟨rfl, [first, second, .commit two, .commit one], [], rfl, nofun, nofun⟩
  refine ⟨published, map.2.1.2.2.1 ▸ rfl, map.2.2.2.2.2 lawful _ _ published, ?_, ?_⟩
  · refine ((refines_last_commit (moves ++ [.clear])).1.2 "clock").2 fun b stands => ?_
    rw [stands_concat] at stands
    simp at stands
  · exact ((refines_last_commit _).1.1 "clock" two).2
      ⟨rfl, moves ++ [.clear], [], rfl, nofun, nofun⟩

end Drawbridge.Switchboard
