import Drawbridge.Proofs.SlotMap.History
import Mathlib.Data.List.Perm.Basic

/-!
# Where the slots are

A slot holds a value, may be taken up again, or is retired.  `Accounted` is what the two operations
keep of this: a slot that may be taken up again was vacated before, an empty one is noted down or at
its last generation, and the live values are counted.  From it the slots of each sort are told apart
and counted (`Accounted.size_eq`), and no operation meets a slot that it does not expect
(`History.slots_accounted`).
-/

namespace Drawbridge.SlotMap

variable {α : Type} {m : SlotMap α}

/-- The slot is empty at its last generation and not noted down to be taken up again. -/
structure Retired (m : SlotMap α) (i : Nat) : Prop where
  last : ∃ g, m.slots[i]? = some ⟨g, none⟩ ∧ g.toNat + 1 = 2 ^ 32
  unlisted : ∀ j ∈ m.free, j.toNat ≠ i

/-- What the operations keep of the slots. -/
structure Accounted (m : SlotMap α) : Prop extends m.Sound where
  worn : ∀ i ∈ m.free, ∀ g, m.slots[i.toNat]? = some ⟨g, none⟩ → 2 ≤ g.toNat
  listed : ∀ i g, m.slots[i]? = some ⟨g, none⟩ →
    (∃ j ∈ m.free, j.toNat = i) ∨ g.toNat + 1 = 2 ^ 32
  live : m.live = m.slots.countP (·.value.isSome)

theorem accounted_empty : (empty : SlotMap α).Accounted where
  toSound := sound_empty
  worn := by simp [empty]
  listed := by simp [empty]
  live := rfl

/-! ## What the operations keep -/

/-- A slot after one was written: the new one, or one that was there. -/
theorem slot_write {i k : Nat} {new slot : Slot α}
    (h : (m.slots.setIfInBounds i new)[k]? = some slot) :
    i = k ∧ slot = new ∨ i ≠ k ∧ m.slots[k]? = some slot := by
  rw [Array.getElem?_setIfInBounds] at h
  split_ifs at h with hk
  · exact Or.inl ⟨hk, (Option.some.inj h).symm⟩
  · exact Or.inr ⟨hk, h⟩

/-- How many slots hold a value after one was written. -/
theorem countP_write {i : Nat} {slot : Slot α} (hi : m.slots[i]? = some slot) (new : Slot α) :
    (m.slots.setIfInBounds i new).countP (·.value.isSome) + (if slot.value.isSome then 1 else 0)
      = m.slots.countP (·.value.isSome) + if new.value.isSome then 1 else 0 := by
  obtain ⟨hlt, rfl⟩ := Array.getElem?_eq_some_iff.1 hi
  have hle : (if m.slots[i].value.isSome then 1 else 0) ≤ m.slots.countP (·.value.isSome) := by
    split_ifs with h
    · exact Array.countP_pos_iff.2 ⟨_, Array.getElem_mem hlt, h⟩
    · exact Nat.zero_le _
  rw [Array.setIfInBounds_def, dif_pos hlt, Array.countP_set hlt]
  omega

theorem Accounted.insert (accounted : m.Accounted) (a : α) : (m.insert a).2.Accounted := by
  have sound := accounted.toSound.insert a
  rcases insert_cases accounted.toSound a with ⟨i, rest, g, hf, hi, e⟩ | ⟨hf, e⟩
  · rw [e] at sound ⊢
    refine ⟨sound, fun j hj g' hg' => ?_, fun k g' hg' => ?_, ?_⟩
    · rcases slot_write hg' with ⟨-, new⟩ | ⟨-, old⟩
      · cases new
      · exact accounted.worn j (hf ▸ List.mem_cons_of_mem i hj) g' old
    · rcases slot_write hg' with ⟨-, new⟩ | ⟨hne, old⟩
      · cases new
      · refine (accounted.listed k g' old).imp_left fun ⟨j, hj, hjk⟩ => ⟨j, ?_, hjk⟩
        refine (List.mem_cons.1 (hf ▸ hj)).resolve_left ?_
        rintro rfl
        exact hne hjk
    · have count := countP_write hi ⟨g, some a⟩
      rw [← accounted.live] at count
      exact count.symm
  · rw [e] at sound ⊢
    refine ⟨sound, by simp, fun k g' hg' => ?_, ?_⟩
    · rw [Array.getElem?_push] at hg'
      split_ifs at hg' with hk
      · cases hg'
      · simpa [hf] using accounted.listed k g' hg'
    · rw [Array.countP_push, accounted.live]
      rfl

/-- A value that a handle leads to is one of those counted. -/
theorem Accounted.live_pos (accounted : m.Accounted) {h : Handle} {a : α}
    (ha : m.get? h = some a) : 0 < m.live := by
  have count := countP_write ((get?_eq_some_iff h a).1 ha) ⟨h.generation, none⟩
  rw [← accounted.live] at count
  simp only [Option.isSome_some, if_true, Option.isSome_none, Bool.false_eq_true, if_false] at count
  omega

theorem Accounted.remove (accounted : m.Accounted) (h : Handle) : (m.remove h).2.Accounted := by
  have sound := accounted.toSound.remove h
  rcases remove_cases m h with ⟨-, e⟩ | ⟨a, ha, hr⟩
  · rw [e]
    exact accounted
  have hslot := (get?_eq_some_iff h a).1 ha
  have unlisted := accounted.index_notMem ha
  have live (g : UInt32) : m.live - 1
      = (m.slots.setIfInBounds h.index.toNat ⟨g, none⟩).countP (·.value.isSome) := by
    have count := countP_write hslot ⟨g, none⟩
    rw [← accounted.live] at count
    exact (Nat.eq_sub_of_add_eq count).symm
  rcases hr with ⟨hg, e⟩ | ⟨hg, e⟩
  · rw [e] at sound ⊢
    refine ⟨sound, fun j hj g' hg' => ?_, fun k g' hg' => ?_, live _⟩
    · rcases slot_write hg' with ⟨-, new⟩ | ⟨hne, old⟩
      · obtain ⟨rfl, -⟩ := Slot.mk.inj new
        have hpos : 0 < h.generation.toNat :=
          Nat.pos_of_ne_zero fun e => accounted.positive _ _ hslot (UInt32.toNat_inj.1 e)
        rw [UInt32.toNat_add, UInt32.toNat_one, Nat.mod_eq_of_lt hg]
        omega
      · have hm : j ∈ m.free := (List.mem_cons.1 hj).resolve_left (by rintro rfl; exact hne rfl)
        exact accounted.worn j hm g' old
    · rcases slot_write hg' with ⟨rfl, -⟩ | ⟨-, old⟩
      · exact Or.inl ⟨h.index, List.mem_cons_self .., rfl⟩
      · exact (accounted.listed k g' old).imp_left fun ⟨j, hj, hjk⟩ =>
          ⟨j, List.mem_cons_of_mem _ hj, hjk⟩
  · rw [e] at sound ⊢
    refine ⟨sound, fun j hj g' hg' => ?_, fun k g' hg' => ?_, live _⟩
    · rcases slot_write hg' with ⟨same, -⟩ | ⟨-, old⟩
      · exact absurd hj (UInt32.toNat_inj.1 same ▸ unlisted)
      · exact accounted.worn j hj g' old
    · rcases slot_write hg' with ⟨-, new⟩ | ⟨-, old⟩
      · obtain ⟨rfl, -⟩ := Slot.mk.inj new
        exact Or.inr hg
      · exact accounted.listed k g' old

/-! ## The three sorts of slots -/

/-- `Retired` as a computation. -/
def isRetired (m : SlotMap α) (i : Nat) : Bool :=
  (m.slots[i]?).any (fun slot => slot.value.isNone && slot.generation.toNat + 1 == 2 ^ 32)
    && m.free.all (·.toNat != i)

theorem isRetired_iff {i : Nat} : m.isRetired i = true ↔ m.Retired i := by
  unfold isRetired
  rw [Bool.and_eq_true, Option.any_eq_true, List.all_eq_true]
  constructor
  · rintro ⟨⟨⟨g, v⟩, hs, hv⟩, unlisted⟩
    rw [Bool.and_eq_true, Option.isNone_iff_eq_none, beq_iff_eq] at hv
    obtain rfl : v = none := hv.1
    exact ⟨⟨g, hs, hv.2⟩, fun j hj => bne_iff_ne.1 (unlisted j hj)⟩
  · rintro ⟨⟨g, hs, hg⟩, unlisted⟩
    exact ⟨⟨_, hs, by simpa using hg⟩, fun j hj => bne_iff_ne.2 (unlisted j hj)⟩

instance (i : Nat) : Decidable (m.Retired i) := decidable_of_iff _ isRetired_iff

/-- The places of the retired slots. -/
def retired (m : SlotMap α) : List Nat := (List.range m.slots.size).filter (m.Retired ·)

theorem mem_retired_iff {i : Nat} : i ∈ m.retired ↔ m.Retired i := by
  unfold retired
  rw [List.mem_filter, List.mem_range, decide_eq_true_iff]
  exact ⟨And.right, fun h => ⟨lt_size_of_slot h.last.choose_spec.1, h⟩⟩

/-- The places of the slots without a value. -/
def vacancies (m : SlotMap α) : List Nat :=
  (List.range m.slots.size).filter fun i => (m.slots[i]?).any (·.value.isNone)

theorem mem_vacancies_iff {i : Nat} : i ∈ m.vacancies ↔ ∃ g, m.slots[i]? = some ⟨g, none⟩ := by
  unfold vacancies
  rw [List.mem_filter, List.mem_range, Option.any_eq_true]
  constructor
  · rintro ⟨-, ⟨g, v⟩, hs, hv⟩
    obtain rfl : v = none := Option.isNone_iff_eq_none.1 hv
    exact ⟨g, hs⟩
  · rintro ⟨g, hs⟩
    exact ⟨lt_size_of_slot hs, _, hs, rfl⟩

/-- A slot has a value or has none. -/
theorem size_eq_countP_add_vacancies (m : SlotMap α) :
    m.slots.size = m.slots.countP (·.value.isSome) + m.vacancies.length := by
  have inPlace : (List.range m.slots.size).map (fun i => m.slots[i]?) = m.slots.toList.map some :=
    List.ext_getElem (by simp) fun i _ _ => by simp
  have vacant : m.vacancies.length = m.slots.countP (·.value.isNone) := by
    rw [vacancies, ← List.countP_eq_length_filter, ← Array.countP_toList]
    let empty (slot : Option (Slot α)) : Bool := slot.any (·.value.isNone)
    calc (List.range m.slots.size).countP (fun i => empty m.slots[i]?)
        = ((List.range m.slots.size).map fun i => m.slots[i]?).countP empty := by
          rw [List.countP_map]
          rfl
      _ = (m.slots.toList.map some).countP empty := by rw [inPlace]
      _ = m.slots.toList.countP (·.value.isNone) := List.countP_map
  have other : (fun slot : Slot α => decide ¬slot.value.isSome = true) = (·.value.isNone) := by
    funext slot
    cases slot.value <;> rfl
  rw [vacant, ← other]
  exact Array.size_eq_countP_add_countP

/-- The slots without a value are those noted down and those retired. -/
theorem Accounted.vacancies_perm (accounted : m.Accounted) :
    m.vacancies.Perm (m.free.map UInt32.toNat ++ m.retired) := by
  have free : (m.free.map UInt32.toNat).Nodup :=
    accounted.nodup.map fun i j e => UInt32.toNat_inj.1 e
  have apart : List.Disjoint (m.free.map UInt32.toNat) m.retired := by
    intro i hf hr
    obtain ⟨j, hj, rfl⟩ := List.mem_map.1 hf
    exact (mem_retired_iff.1 hr).unlisted j hj rfl
  have once : (m.free.map UInt32.toNat ++ m.retired).Nodup :=
    free.append (List.nodup_range.filter _) apart
  refine (List.perm_ext_iff_of_nodup (List.nodup_range.filter _) once).2 fun i => ?_
  rw [List.mem_append, List.mem_map, mem_retired_iff, ← vacancies, mem_vacancies_iff]
  constructor
  · rintro ⟨g, hs⟩
    by_cases listed : ∃ j ∈ m.free, j.toNat = i
    · exact Or.inl listed
    · refine Or.inr ⟨⟨g, hs, (accounted.listed i g hs).resolve_left listed⟩, fun j hj e => ?_⟩
      exact listed ⟨j, hj, e⟩
  · rintro (⟨j, hj, rfl⟩ | ⟨⟨g, hs, -⟩, -⟩)
    · exact accounted.vacant j hj
    · exact ⟨g, hs⟩

theorem Accounted.size_eq (accounted : m.Accounted) :
    m.slots.size = m.live + m.free.length + m.retired.length := by
  rw [size_eq_countP_add_vacancies, ← accounted.live, accounted.vacancies_perm.length_eq,
    List.length_append, List.length_map, Nat.add_assoc]

/-! ## Every state -/

theorem History.accounted {past : List (Deed α)} (history : History past m) : m.Accounted := by
  induction history with
  | empty => exact accounted_empty
  | insert a _ ih => exact ih.insert a
  | get h _ ih => exact ih
  | remove h _ ih => exact ih.remove h

/-- A value goes to an empty slot of the map, or to a new one if none may be taken up. -/
theorem Accounted.slot_of_insert (accounted : m.Accounted) (a : α)
    (room : (m.insert a).2.slots.size ≤ 2 ^ 32) :
    (∃ i rest g, m.free = i :: rest ∧ m.slots[i.toNat]? = some ⟨g, none⟩ ∧
      (m.insert a).1 = ⟨i, g⟩ ∧ (m.insert a).2.slots.size = m.slots.size) ∨
    m.free = [] ∧ m.slots.size = m.live + m.retired.length ∧
      (m.insert a).1.index.toNat = m.slots.size ∧
      (m.insert a).2.slots.size = m.slots.size + 1 := by
  rcases insert_cases accounted.toSound a with ⟨i, rest, g, hf, hi, e⟩ | ⟨hf, e⟩
  · rw [e]
    exact Or.inl ⟨i, rest, g, hf, hi, rfl, Array.size_setIfInBounds⟩
  · have size := accounted.size_eq
    rw [hf] at size
    rw [e, Array.size_push] at room
    rw [e]
    exact Or.inr ⟨hf, size, toNat_size room, Array.size_push ..⟩

/-- The slot that a value was taken from is one generation further or retired. -/
theorem generation_remove (sound : m.Sound) {h : Handle} {a : α} (ha : m.get? h = some a) :
    (∃ g, (m.remove h).2.slots[h.index.toNat]? = some ⟨g, none⟩ ∧
      g.toNat = h.generation.toNat + 1) ∨
    h.generation.toNat + 1 = 2 ^ 32 ∧ (m.remove h).2.Retired h.index.toNat := by
  have hlt := lt_size_of_slot ((get?_eq_some_iff h a).1 ha)
  rcases remove_cases m h with ⟨hn, -⟩ | ⟨_, -, ⟨hg, e⟩ | ⟨hg, e⟩⟩
  · rw [ha] at hn
    cases hn
  · refine Or.inl ⟨h.generation + 1, ?_, ?_⟩
    · rw [e, Array.getElem?_setIfInBounds_self_of_lt hlt]
    · rw [UInt32.toNat_add, UInt32.toNat_one, Nat.mod_eq_of_lt hg]
  · rw [e]
    refine Or.inr ⟨hg, ⟨_, Array.getElem?_setIfInBounds_self_of_lt hlt, hg⟩, fun j hj same => ?_⟩
    exact sound.index_notMem ha (UInt32.toNat_inj.1 same ▸ hj)

/-- An empty slot is noted down once, or it is retired. -/
theorem Accounted.noted_or_retired (accounted : m.Accounted) {i : Nat} {g : UInt32}
    (hs : m.slots[i]? = some ⟨g, none⟩) :
    m.free.countP (·.toNat = i) = 1 ∧ ¬ m.Retired i ∨
      m.free.countP (·.toNat = i) = 0 ∧ m.Retired i := by
  by_cases listed : ∃ j ∈ m.free, j.toNat = i
  · obtain ⟨j, hj, rfl⟩ := listed
    refine Or.inl ⟨?_, fun retired => retired.unlisted j hj rfl⟩
    have same : m.free.countP (fun k => decide (k.toNat = j.toNat)) = m.free.count j :=
      List.countP_congr fun k _ => by simp [UInt32.toNat_inj]
    rw [same, List.count_eq_one_of_mem accounted.nodup hj]
  · have unlisted : ∀ j ∈ m.free, j.toNat ≠ i := fun j hj e => listed ⟨j, hj, e⟩
    refine Or.inr ⟨?_, ⟨g, hs, (accounted.listed i g hs).resolve_left listed⟩, unlisted⟩
    exact List.countP_eq_zero.2 fun j hj => by simpa using unlisted j hj

/-- Whatever was done with a slot map, its slots are accounted for, and the next operation finds
them as it expects. -/
theorem History.slots_accounted {past : List (Deed α)} (history : History past m) :
    -- what is noted down, each slot once, was vacated before
    (m.free.Nodup ∧ ∀ i ∈ m.free, ∃ g, m.slots[i.toNat]? = some ⟨g, none⟩ ∧ 2 ≤ g.toNat) ∧
    -- an empty slot is noted down once, or retired with its last generation
    (∀ i g, m.slots[i]? = some ⟨g, none⟩ →
      m.free.countP (·.toNat = i) = 1 ∧ ¬ m.Retired i ∨
        m.free.countP (·.toNat = i) = 0 ∧ m.Retired i ∧ g.toNat = 2 ^ 32 - 1) ∧
    (∀ (i : Nat) (slot : Slot α), m.slots[i]? = some slot → 1 ≤ slot.generation.toNat) ∧
    -- the live values are those in the slots, and every slot is of one of the three sorts
    (m.live = m.slots.countP (·.value.isSome) ∧
      m.slots.size = m.live + m.free.length + m.retired.length) ∧
    -- a value goes to an empty slot of the map, and to a new one only if all others hold a value
    -- or are retired
    (∀ a, (m.insert a).2.slots.size ≤ 2 ^ 32 →
      (∃ i rest g, m.free = i :: rest ∧ m.slots[i.toNat]? = some ⟨g, none⟩ ∧
        (m.insert a).1 = ⟨i, g⟩ ∧ (m.insert a).2.slots.size = m.slots.size) ∨
      m.free = [] ∧ m.slots.size = m.live + m.retired.length ∧
        (m.insert a).1.index.toNat = m.slots.size ∧
        (m.insert a).2.slots.size = m.slots.size + 1) ∧
    -- what is taken out was counted, and its slot gets the next generation or is retired
    ∀ h a, (m.remove h).1 = some a →
      0 < m.live ∧ (m.remove h).2.live + 1 = m.live ∧
      ((∃ g, (m.remove h).2.slots[h.index.toNat]? = some ⟨g, none⟩ ∧
          g.toNat = h.generation.toNat + 1) ∨
        h.generation.toNat = 2 ^ 32 - 1 ∧ (m.remove h).2.Retired h.index.toNat) := by
  have accounted := history.accounted
  refine ⟨⟨accounted.nodup, fun i hi => ?_⟩, fun i g hs => ?_, fun i slot hs => ?_,
    ⟨accounted.live, accounted.size_eq⟩, accounted.slot_of_insert, fun h a ha => ?_⟩
  · obtain ⟨g, hs⟩ := accounted.vacant i hi
    exact ⟨g, hs, accounted.worn i hi g hs⟩
  · refine (accounted.noted_or_retired hs).imp_right fun ⟨unnoted, retired⟩ =>
      ⟨unnoted, retired, ?_⟩
    obtain ⟨g', hs', last⟩ := retired.last
    obtain ⟨rfl, -⟩ := Slot.mk.inj (Option.some.inj (hs.symm.trans hs'))
    omega
  · exact Nat.pos_of_ne_zero fun e => accounted.positive i slot hs (UInt32.toNat_inj.1 e)
  · rw [remove_fst] at ha
    have live := accounted.live_pos ha
    refine ⟨live, ?_, (generation_remove accounted.toSound ha).imp_right fun ⟨last, retired⟩ =>
      ⟨by omega, retired⟩⟩
    rcases remove_cases m h with ⟨hn, -⟩ | ⟨_, -, ⟨-, e⟩ | ⟨-, e⟩⟩
    · rw [ha] at hn
      cases hn
    · rw [e]
      exact Nat.sub_add_cancel live
    · rw [e]
      exact Nat.sub_add_cancel live

/-- A map with a slot of each sort: the first is retired, the second holds a value, and the third
is the next to be taken up. -/
theorem slots_accounted_each :
    let m : SlotMap Unit := ⟨#[⟨4294967295, none⟩, ⟨1, some ()⟩, ⟨2, none⟩], [2], 1⟩
    (∃ past, History past m) ∧ m.Retired 0 ∧ m.free.countP (·.toNat = 2) = 1 ∧
      m.slots.size = m.live + m.free.length + m.retired.length ∧
      (m.insert ()).1 = ⟨2, 2⟩ ∧
      (∃ g, (m.remove ⟨1, 1⟩).2.slots[1]? = some ⟨g, none⟩ ∧ g.toNat = 2) := by
  intro m
  obtain ⟨past, history⟩ := History.worn 4294967293 (by decide)
  have last : (4294967293 + 2).toUInt32 = 4294967295 := rfl
  have retired := (history.insert ()).remove ⟨0, 4294967295⟩
  rw [last, insert_vacated, remove_last () (by decide)] at retired
  have each : History _ m := ((retired.insert ()).insert ()).remove ⟨2, 1⟩
  obtain ⟨-, empty, -, count, grows, taken⟩ := each.slots_accounted
  have first : m.Retired 0 := ((empty 0 4294967295 rfl).resolve_left (by decide)).2.1
  have third : m.free.countP (·.toNat = 2) = 1 :=
    ((empty 2 2 rfl).resolve_right (by decide)).1
  refine ⟨⟨_, each⟩, first, third, count.2, ?_, ?_⟩
  · obtain ⟨i, rest, g, hf, hs, e, -⟩ := (grows () (by decide)).resolve_right (by decide)
    obtain ⟨rfl, -⟩ := List.cons.inj hf
    obtain ⟨rfl, -⟩ := Slot.mk.inj (Option.some.inj hs)
    exact e
  · exact (taken ⟨1, 1⟩ () rfl).2.2.resolve_right (by decide)

end Drawbridge.SlotMap
