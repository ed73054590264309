import Drawbridge.Proofs.Switchboard.Publication
import Mathlib.Data.List.Nodup

/-!
# Names of a switchboard

`names` lists the published names in order and each of them once, as long as no two bindings have
one name, which `Unique` says and the operations keep.  So boards that publish the same names list
them alike (`names_eq_iff`), and until a board is cleared it publishes the binding that was
published last under each name, once (`Unique.mem_published_after_iff`).
-/

namespace Drawbridge.Switchboard

variable {board board' : Switchboard}

/-- No two published bindings have one name. -/
def Unique (board : Switchboard) : Prop := (board.published.map (·.name)).Nodup

theorem unique_empty : empty.Unique := List.nodup_nil

theorem unique_clear (board : Switchboard) : board.clear.Unique := List.nodup_nil

theorem Unique.prepare (unique : board.Unique) (name : String) (roster : Roster)
    (object : ObjectId) : (board.prepare name roster object).2.Unique := unique

theorem Unique.commit (unique : board.Unique) (b : Binding) : (board.commit b).Unique := by
  unfold Unique Switchboard.commit
  rw [List.map_cons, List.nodup_cons]
  constructor
  · intro h
    obtain ⟨c, hc, he⟩ := List.mem_map.1 h
    simp [he] at hc
  · exact unique.sublist (List.filter_sublist.map _)

theorem mem_names_iff (name : String) : name ∈ board.names ↔ (board.get? name).isSome := by
  unfold names get?
  rw [List.mem_mergeSort, List.find?_isSome]
  simp

theorem pairwise_names (board : Switchboard) :
    board.names.Pairwise fun a b => decide (a ≤ b) = true := by
  refine List.pairwise_mergeSort (fun a b c hab hbc => ?_) (fun a b => ?_) _
  · exact decide_eq_true (String.le_trans (of_decide_eq_true hab) (of_decide_eq_true hbc))
  · rw [Bool.or_eq_true, decide_eq_true_iff, decide_eq_true_iff]
    exact String.le_total a b

theorem Unique.nodup_names (unique : board.Unique) : board.names.Nodup :=
  (List.mergeSort_perm _ _).nodup_iff.2 unique

theorem names_eq_iff (unique : board.Unique) (unique' : board'.Unique) :
    board.names = board'.names ↔ ∀ name, (board.get? name).isSome ↔ (board'.get? name).isSome := by
  constructor
  · intro h name
    rw [← mem_names_iff, ← mem_names_iff, h]
  · intro h
    refine List.Perm.eq_of_pairwise (fun a b _ _ hab hba => ?_) board.pairwise_names
      board'.pairwise_names ?_
    · exact String.le_antisymm (of_decide_eq_true hab) (of_decide_eq_true hba)
    · refine (List.perm_ext_iff_of_nodup unique.nodup_names unique'.nodup_names).2 fun name => ?_
      rw [mem_names_iff, mem_names_iff, h]

theorem names_eq_nil_iff : board.names = [] ↔ ∀ name, board.get? name = none := by
  simp only [List.eq_nil_iff_forall_not_mem, mem_names_iff, Option.not_isSome_iff_eq_none]

/-! ## The binding published last -/

/-- Of the bindings of its name this one was published last. -/
def Latest (moves : List Move) (b : Binding) : Prop :=
  ∃ earlier later, moves = earlier ++ .commit b :: later ∧ ∀ c, .commit c ∈ later → c.name ≠ b.name

theorem not_latest_nil (b : Binding) : ¬ Latest [] b := by
  rintro ⟨earlier, later, h, -⟩
  simp at h

theorem latest_concat (moves : List Move) (m : Move) (b : Binding) :
    Latest (moves ++ [m]) b ↔
      m = .commit b ∨ (∀ c, m = .commit c → c.name ≠ b.name) ∧ Latest moves b := by
  have others (later : List Move) : (∀ c, .commit c ∈ later → c.name ≠ b.name) ↔
      ∀ m ∈ later, ∀ c, m = .commit c → c.name ≠ b.name :=
    ⟨fun h m hm c e => h c (e ▸ hm), fun h c hc => h _ hc c rfl⟩
  simp only [Latest, others]
  exact exists_split_concat_iff fun m : Move => ∀ c, m = .commit c → c.name ≠ b.name

theorem get?_after_eq_some_iff {moves : List Move} (uncleared : .clear ∉ moves) (b : Binding) :
    (empty.after moves).get? b.name = some b ↔ Latest moves b := by
  induction moves using List.reverseRecOn with
  | nil => exact iff_of_false nofun (not_latest_nil b)
  | append_singleton moves m ih =>
    simp only [List.mem_append, List.mem_singleton, not_or] at uncleared
    have ih := ih uncleared.1
    rw [after_concat, latest_concat, ← ih]
    cases m with
    | prepare n roster object =>
      rw [apply, get?_prepare]
      simp
    | commit c =>
      rw [apply, get?_commit]
      split_ifs with h
      · simp [h]
      · simp only [Move.commit.injEq, forall_eq', ne_eq, h, not_false_eq_true, true_and]
        exact (or_iff_right fun hc => h (congrArg Binding.name hc)).symm
    | clear => exact absurd rfl uncleared.2

theorem Unique.mem_published_iff (unique : board.Unique) (b : Binding) :
    b ∈ board.published ↔ board.get? b.name = some b := by
  refine ⟨fun h => ?_, List.mem_of_find?_eq_some⟩
  obtain ⟨c, hc⟩ : ∃ c, board.get? b.name = some c :=
    Option.isSome_iff_exists.1 (List.find?_isSome.2 ⟨b, h, by simp⟩)
  have name : c.name = b.name := by simpa using List.find?_some hc
  rw [← List.inj_on_of_nodup_map unique (List.mem_of_find?_eq_some hc) h name]
  exact name ▸ hc

theorem Unique.count_published (unique : board.Unique) (b : Binding) :
    board.published.count b = if b ∈ board.published then 1 else 0 :=
  (List.Nodup.of_map _ unique).count

/-- Until it is cleared a board publishes under each name what was published there last. -/
theorem Unique.mem_published_after_iff {moves : List Move} (unique : (empty.after moves).Unique)
    (uncleared : .clear ∉ moves) (b : Binding) :
    b ∈ (empty.after moves).published ↔ Latest moves b := by
  rw [unique.mem_published_iff, get?_after_eq_some_iff uncleared]

end Drawbridge.Switchboard
