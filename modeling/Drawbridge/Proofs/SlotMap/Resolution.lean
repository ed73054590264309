import Drawbridge.SlotMap
import Mathlib.Algebra.Order.Ring.Nat
import Mathlib.Data.List.Nodup

/-!
# What handles resolve to

`insert_cases` and `remove_cases` say what the two operations do to the slots.  `Sound` is what they
keep: vacated slots are empty, none is noted down twice, and generations start at one.  A handle
that has lost its value is `Spent`, and stays so: `Spent.insert` and `Spent.remove` are the reason
why it never leads to the value of another.
-/

namespace Drawbridge.SlotMap

variable {α : Type} {m : SlotMap α}

/-- The free list names empty slots, each once, and no slot has generation zero. -/
structure Sound (m : SlotMap α) : Prop where
  nodup : m.free.Nodup
  vacant : ∀ i ∈ m.free, ∃ g, m.slots[i.toNat]? = some ⟨g, none⟩
  positive : ∀ (i : Nat) (slot : Slot α), m.slots[i]? = some slot → slot.generation ≠ 0

theorem sound_empty : (empty : SlotMap α).Sound where
  nodup := List.nodup_nil
  vacant := by simp [empty]
  positive := by simp [empty]

/-! ## The operations -/

theorem lt_size_of_slot {i : Nat} {slot : Slot α} (hs : m.slots[i]? = some slot) :
    i < m.slots.size :=
  (Array.getElem?_eq_some_iff.1 hs).1

theorem get?_eq_some_iff (h : Handle) (a : α) :
    m.get? h = some a ↔ m.slots[h.index.toNat]? = some ⟨h.generation, some a⟩ := by
  unfold get?
  cases hs : m.slots[h.index.toNat]? with
  | none => simp
  | some slot =>
    obtain ⟨g, v⟩ := slot
    by_cases hg : g = h.generation <;> simp [hg]

theorem Sound.get?_null (sound : m.Sound) : m.get? .null = none := by
  cases h : m.get? .null with
  | none => rfl
  | some a => exact absurd rfl (sound.positive _ _ ((get?_eq_some_iff _ a).1 h))

/-- A vacated slot is taken up, or a new one is opened. -/
theorem insert_cases (sound : m.Sound) (a : α) :
    (∃ i rest g, m.free = i :: rest ∧ m.slots[i.toNat]? = some ⟨g, none⟩ ∧
      m.insert a =
        (⟨i, g⟩, ⟨m.slots.setIfInBounds i.toNat ⟨g, some a⟩, rest, m.live + 1⟩)) ∨
    m.free = [] ∧
      m.insert a = (⟨m.slots.size.toUInt32, 1⟩, ⟨m.slots.push ⟨1, some a⟩, [], m.live + 1⟩) := by
  unfold insert
  cases hf : m.free with
  | nil => exact Or.inr ⟨rfl, rfl⟩
  | cons i rest =>
    obtain ⟨g, hg⟩ := sound.vacant i (by simp [hf])
    exact Or.inl ⟨i, rest, g, rfl, hg, by simp [hg]⟩

theorem nextGeneration?_of_lt {g : UInt32} (h : g.toNat + 1 < 2 ^ 32) :
    nextGeneration? g = some (g + 1) := if_pos h

theorem nextGeneration?_of_last {g : UInt32} (h : g.toNat + 1 = 2 ^ 32) :
    nextGeneration? g = none := if_neg (Nat.not_lt_of_le (Nat.le_of_eq h.symm))

/-- Only a value that the handle resolves to is taken out. Its slot is noted down under the next
generation, or retired with the last. -/
theorem remove_cases (m : SlotMap α) (h : Handle) :
    m.get? h = none ∧ m.remove h = (none, m) ∨
    ∃ a, m.get? h = some a ∧
      (h.generation.toNat + 1 < 2 ^ 32 ∧
        m.remove h = (some a, ⟨m.slots.setIfInBounds h.index.toNat ⟨h.generation + 1, none⟩,
          h.index :: m.free, m.live - 1⟩) ∨
      h.generation.toNat + 1 = 2 ^ 32 ∧
        m.remove h = (some a, ⟨m.slots.setIfInBounds h.index.toNat ⟨h.generation, none⟩,
          m.free, m.live - 1⟩)) := by
  unfold get? remove
  cases hs : m.slots[h.index.toNat]? with
  | none => exact Or.inl ⟨rfl, rfl⟩
  | some slot =>
    obtain ⟨g, v⟩ := slot
    by_cases hg : g = h.generation
    · subst hg
      cases v with
      | none => simp
      | some a =>
        have := h.generation.toNat_lt
        by_cases hn : h.generation.toNat + 1 < 2 ^ 32
        · refine Or.inr ⟨a, by simp, Or.inl ⟨hn, ?_⟩⟩
          simp [nextGeneration?_of_lt hn]
        · have last : h.generation.toNat + 1 = 2 ^ 32 := by omega
          refine Or.inr ⟨a, by simp, Or.inr ⟨last, ?_⟩⟩
          simp [nextGeneration?_of_last last]
    · simp [hg]

theorem remove_fst (m : SlotMap α) (h : Handle) : (m.remove h).1 = m.get? h := by
  rcases remove_cases m h with ⟨hn, e⟩ | ⟨a, ha, ⟨-, e⟩ | ⟨-, e⟩⟩
  · rw [e, hn]
  · rw [e, ha]
  · rw [e, ha]

/-! ## What the operations keep -/

theorem one_ne_zero : (1 : UInt32) ≠ 0 := by decide

theorem succ_ne_zero {g : UInt32} (h : g.toNat + 1 < 2 ^ 32) : g + 1 ≠ 0 := by
  intro e
  have := congrArg UInt32.toNat e
  rw [UInt32.toNat_add, UInt32.toNat_one, Nat.mod_eq_of_lt h] at this
  simp at this

theorem Sound.insert (sound : m.Sound) (a : α) : (m.insert a).2.Sound := by
  rcases insert_cases sound a with ⟨i, rest, g, hf, hi, e⟩ | ⟨hf, e⟩
  · have nodup : i ∉ rest ∧ rest.Nodup := List.nodup_cons.1 (hf ▸ sound.nodup)
    rw [e]
    refine ⟨nodup.2, fun j hj => ?_, fun j slot hj => ?_⟩
    · obtain ⟨g', hg'⟩ := sound.vacant j (hf ▸ List.mem_cons_of_mem i hj)
      have hne : i.toNat ≠ j.toNat := fun h => nodup.1 (UInt32.toNat_inj.1 h ▸ hj)
      exact ⟨g', by rw [Array.getElem?_setIfInBounds_ne hne, hg']⟩
    · rw [Array.getElem?_setIfInBounds] at hj
      split_ifs at hj with hij hlt
      · obtain rfl := Option.some.inj hj
        exact sound.positive i.toNat ⟨g, none⟩ hi
      · exact sound.positive j slot hj
  · rw [e]
    refine ⟨List.nodup_nil, by simp, fun j slot hj => ?_⟩
    rw [Array.getElem?_push] at hj
    split_ifs at hj with hjs
    · obtain rfl := Option.some.inj hj
      exact one_ne_zero
    · exact sound.positive j slot hj

theorem Sound.index_notMem (sound : m.Sound) {h : Handle} {a : α} (ha : m.get? h = some a) :
    h.index ∉ m.free := by
  intro hf
  obtain ⟨g, hg⟩ := sound.vacant _ hf
  rw [(get?_eq_some_iff h a).1 ha] at hg
  simp at hg

theorem Sound.remove (sound : m.Sound) (h : Handle) : (m.remove h).2.Sound := by
  have key : ∀ {a : α} {g : UInt32} {free : List UInt32} {live : Nat}, m.get? h = some a → g ≠ 0 →
      (free = h.index :: m.free ∨ free = m.free) →
      Sound ⟨m.slots.setIfInBounds h.index.toNat ⟨g, none⟩, free, live⟩ := by
    intro a g free live ha hg hf
    have hslot := (get?_eq_some_iff h a).1 ha
    have hlt := lt_size_of_slot hslot
    have hfresh := sound.index_notMem ha
    refine ⟨?_, fun j hj => ?_, fun j slot hj => ?_⟩
    · rcases hf with rfl | rfl
      · exact List.nodup_cons.2 ⟨hfresh, sound.nodup⟩
      · exact sound.nodup
    · by_cases hij : h.index = j
      · exact ⟨g, by rw [hij, Array.getElem?_setIfInBounds_self_of_lt (hij ▸ hlt)]⟩
      · have hj' : j ∈ m.free := by
          rcases hf with rfl | rfl
          · exact (List.mem_cons.1 hj).resolve_left (Ne.symm hij)
          · exact hj
        obtain ⟨g', hg'⟩ := sound.vacant j hj'
        have hne : h.index.toNat ≠ j.toNat := fun e => hij (UInt32.toNat_inj.1 e)
        exact ⟨g', by rw [Array.getElem?_setIfInBounds_ne hne, hg']⟩
    · rw [Array.getElem?_setIfInBounds] at hj
      split_ifs at hj with hij
      · obtain rfl := Option.some.inj hj
        exact hg
      · exact sound.positive j slot hj
  rcases remove_cases m h with ⟨-, e⟩ | ⟨a, ha, ⟨hg, e⟩ | ⟨hg, e⟩⟩
  · rw [e]
    exact sound
  · rw [e]
    exact key ha (succ_ne_zero hg) (Or.inl rfl)
  · rw [e]
    exact key ha (sound.positive _ _ ((get?_eq_some_iff h a).1 ha)) (Or.inr rfl)

/-! ## What resolves after them -/

theorem insert_generation_ne_zero (sound : m.Sound) (a : α) : (m.insert a).1.generation ≠ 0 := by
  rcases insert_cases sound a with ⟨i, rest, g, -, hi, e⟩ | ⟨-, e⟩
  · rw [e]
    exact sound.positive _ _ hi
  · rw [e]
    exact one_ne_zero

theorem size_remove (m : SlotMap α) (h : Handle) :
    (m.remove h).2.slots.size = m.slots.size := by
  rcases remove_cases m h with ⟨-, e⟩ | ⟨a, -, ⟨-, e⟩ | ⟨-, e⟩⟩ <;> rw [e]
  · simp
  · simp

theorem size_le_size_insert (m : SlotMap α) (a : α) :
    m.slots.size ≤ (m.insert a).2.slots.size := by
  unfold insert
  split
  · split <;> simp
  · simp

/-- A new slot has an index that no other slot has. -/
theorem toNat_size (room : m.slots.size < 2 ^ 32) : m.slots.size.toUInt32.toNat = m.slots.size :=
  UInt32.toNat_ofNat_of_lt' room

/-- Where one slot was written, the handles of its index see what was written. -/
theorem get?_of_set {m' : SlotMap α} {i : UInt32} {slot : Slot α} (hi : i.toNat < m.slots.size)
    (e : m'.slots = m.slots.setIfInBounds i.toNat slot) (h : Handle) (b : α) :
    m'.get? h = some b ↔
      if h.index = i then slot = ⟨h.generation, some b⟩ else m.get? h = some b := by
  rw [get?_eq_some_iff, e]
  split_ifs with hidx
  · rw [hidx, Array.getElem?_setIfInBounds_self_of_lt hi, Option.some_inj]
  · have hne : i.toNat ≠ h.index.toNat := fun e => hidx (UInt32.toNat_inj.1 e).symm
    rw [Array.getElem?_setIfInBounds_ne hne, get?_eq_some_iff]

/-- The handle given out leads to the value, and all others to what they led to. -/
theorem get?_insert (sound : m.Sound) (a : α) (room : (m.insert a).2.slots.size ≤ 2 ^ 32)
    (h : Handle) :
    (m.insert a).2.get? h = if h = (m.insert a).1 then some a else m.get? h := by
  refine Option.ext fun b => ?_
  rcases insert_cases sound a with ⟨i, rest, g, -, hi, e⟩ | ⟨-, e⟩
  · have hempty : ∀ g', m.get? ⟨i, g'⟩ ≠ some b := by
      intro g' hb
      rw [get?_eq_some_iff, hi] at hb
      simp at hb
    rw [e, get?_of_set (lt_size_of_slot hi) rfl]
    obtain ⟨j, g'⟩ := h
    by_cases hj : j = i
    · subst hj
      by_cases hg : g' = g
      · simp [hg]
      · simp [hg, Ne.symm hg, hempty]
    · simp [hj]
  · rw [e, Array.size_push] at room
    have hnone : ∀ g', m.get? ⟨m.slots.size.toUInt32, g'⟩ ≠ some b := by
      intro g' hb
      rw [get?_eq_some_iff] at hb
      have := lt_size_of_slot hb
      rw [toNat_size room] at this
      omega
    rw [e, get?_eq_some_iff, Array.getElem?_push]
    obtain ⟨j, g'⟩ := h
    by_cases hj : j = m.slots.size.toUInt32
    · subst hj
      by_cases hg : g' = 1
      · simp [hg, toNat_size room]
      · simp [hg, Ne.symm hg, hnone, toNat_size room]
    · have hne : j.toNat ≠ m.slots.size := fun h =>
        hj (UInt32.toNat_inj.1 (by rw [h, toNat_size room]))
      simp [hj, hne, get?_eq_some_iff]

theorem get?_insert_fst (sound : m.Sound) (a : α) (room : (m.insert a).2.slots.size ≤ 2 ^ 32) :
    m.get? (m.insert a).1 = none := by
  rcases insert_cases sound a with ⟨i, rest, g, -, hi, e⟩ | ⟨-, e⟩
  · rw [e]
    simp [get?, hi]
  · rw [e, Array.size_push] at room
    rw [e]
    simp [get?, toNat_size room]

/-- A removed handle leads nowhere, and all others to what they led to. -/
theorem get?_remove (m : SlotMap α) (h h' : Handle) :
    (m.remove h).2.get? h' = if h' = h then none else m.get? h' := by
  refine Option.ext fun b => ?_
  rcases remove_cases m h with ⟨hn, e⟩ | ⟨a, ha, ⟨hg, e⟩ | ⟨hg, e⟩⟩
  · rw [e]
    split_ifs with hh
    · simp [hh, hn]
    · rfl
  all_goals
    obtain ⟨i, g⟩ := h
    have hslot := (get?_eq_some_iff _ a).1 ha
    rw [e, get?_of_set (lt_size_of_slot hslot) rfl]
    obtain ⟨j, g'⟩ := h'
    by_cases hj : j = i
    · subst hj
      have hother : g' ≠ g → m.get? ⟨j, g'⟩ ≠ some b := by
        intro hne hb
        rw [get?_eq_some_iff, hslot] at hb
        exact hne (Slot.mk.inj (Option.some.inj hb)).1.symm
      by_cases hg' : g' = g <;> simp [hg', hother]
    · simp [hj]

/-! ## How often a value is held -/

section Times

variable [DecidableEq α]

/-- The number of slots that hold a value. -/
def times (m : SlotMap α) (a : α) : Nat := m.slots.countP (·.value = some a)

theorem times_insert (sound : m.Sound) (a b : α) :
    (m.insert b).2.times a = m.times a + if b = a then 1 else 0 := by
  unfold times
  rcases insert_cases sound b with ⟨i, rest, g, -, hi, e⟩ | ⟨-, e⟩
  · obtain ⟨hlt, hget⟩ := Array.getElem?_eq_some_iff.1 hi
    rw [e, Array.setIfInBounds_def, dif_pos hlt, Array.countP_set hlt, hget]
    simp
  · rw [e, Array.countP_push]
    simp

theorem times_remove {h : Handle} {b : α} (hb : m.get? h = some b) (a : α) :
    (m.remove h).2.times a + (if b = a then 1 else 0) = m.times a := by
  obtain ⟨hlt, hget⟩ := Array.getElem?_eq_some_iff.1 ((get?_eq_some_iff h b).1 hb)
  have key : ∀ g, (m.slots.setIfInBounds h.index.toNat ⟨g, none⟩).countP (·.value = some a)
      + (if b = a then 1 else 0) = m.slots.countP (·.value = some a) := by
    intro g
    have hle : (if b = a then 1 else 0) ≤ m.slots.countP (·.value = some a) := by
      split_ifs with hab
      · refine Array.countP_pos_iff.2 ⟨_, Array.getElem_mem hlt, ?_⟩
        simp [hget, hab]
      · exact Nat.zero_le _
    rw [Array.setIfInBounds_def, dif_pos hlt, Array.countP_set hlt, hget]
    simp only [Option.some.injEq, decide_eq_true_eq, reduceCtorEq, decide_false,
      Bool.false_eq_true, if_false, Nat.add_zero]
    exact Nat.sub_add_cancel hle
  unfold times
  rcases remove_cases m h with ⟨hn, -⟩ | ⟨_, -, ⟨-, e⟩ | ⟨-, e⟩⟩
  · rw [hb] at hn
    cases hn
  · rw [e]
    exact key _
  · rw [e]
    exact key _

theorem times_pos {h : Handle} {a : α} (ha : m.get? h = some a) : 0 < m.times a := by
  have := times_remove ha a
  rw [if_pos rfl] at this
  omega

/-- What a slot holds, a handle leads to. -/
theorem exists_get? (room : m.slots.size ≤ 2 ^ 32) {a : α} (ha : 0 < m.times a) :
    ∃ h, m.get? h = some a := by
  obtain ⟨⟨g, v⟩, hmem, hv⟩ := Array.countP_pos_iff.1 ha
  obtain rfl : v = some a := by simpa using hv
  obtain ⟨i, hlt, hi⟩ := Array.getElem_of_mem hmem
  refine ⟨⟨i.toUInt32, g⟩, (get?_eq_some_iff _ a).2 ?_⟩
  have hindex : i.toUInt32.toNat = i := UInt32.toNat_ofNat_of_lt' (Nat.lt_of_lt_of_le hlt room)
  rw [hindex, Array.getElem?_eq_getElem hlt, hi]

end Times

/-! ## Spent handles -/

/-- The handle had a value and lost it: its slot is at a later generation, or retired. -/
def Spent (m : SlotMap α) (h : Handle) : Prop :=
  ∃ slot, m.slots[h.index.toNat]? = some slot ∧
    (h.generation < slot.generation ∨
      h.generation = slot.generation ∧ slot.value = none ∧ h.index ∉ m.free)

theorem Spent.get? {h : Handle} (spent : m.Spent h) : m.get? h = none := by
  obtain ⟨slot, hs, hg⟩ := spent
  unfold SlotMap.get?
  rw [hs]
  rcases hg with hg | ⟨-, hv, -⟩
  · simp [(UInt32.ne_of_lt hg).symm]
  · simp [hv]

theorem spent_remove (sound : m.Sound) {h : Handle} {a : α} (ha : m.get? h = some a) :
    (m.remove h).2.Spent h := by
  have hslot := (get?_eq_some_iff h a).1 ha
  have hlt := lt_size_of_slot hslot
  rcases remove_cases m h with ⟨hn, -⟩ | ⟨_, -, ⟨hg, e⟩ | ⟨-, e⟩⟩
  · rw [ha] at hn
    cases hn
  · refine ⟨⟨h.generation + 1, none⟩, ?_, Or.inl ?_⟩
    · rw [e, Array.getElem?_setIfInBounds_self_of_lt hlt]
    · rw [UInt32.lt_iff_toNat_lt, UInt32.toNat_add, UInt32.toNat_one, Nat.mod_eq_of_lt hg]
      omega
  · refine ⟨⟨h.generation, none⟩, ?_, Or.inr ⟨rfl, rfl, ?_⟩⟩
    · rw [e, Array.getElem?_setIfInBounds_self_of_lt hlt]
    · rw [e]
      exact sound.index_notMem ha

theorem Spent.insert (sound : m.Sound) {h : Handle} (spent : m.Spent h) (a : α) :
    (m.insert a).2.Spent h := by
  obtain ⟨slot, hs, hg⟩ := spent
  rcases insert_cases sound a with ⟨i, rest, g, hf, hi, e⟩ | ⟨hf, e⟩
  · rw [e]
    by_cases hidx : h.index = i
    · subst hidx
      rw [hs] at hi
      obtain rfl := Option.some.inj hi
      have hlater : h.generation < g := hg.resolve_right fun hr => hr.2.2 (by simp [hf])
      exact ⟨⟨g, some a⟩, Array.getElem?_setIfInBounds_self_of_lt (lt_size_of_slot hs),
        Or.inl hlater⟩
    · have hne : i.toNat ≠ h.index.toNat := fun e => hidx (UInt32.toNat_inj.1 e).symm
      refine ⟨slot, by rw [Array.getElem?_setIfInBounds_ne hne, hs], hg.imp_right fun hr => ?_⟩
      exact ⟨hr.1, hr.2.1, fun hm => hr.2.2 (by simp [hf, hm])⟩
  · rw [e]
    have hne : h.index.toNat ≠ m.slots.size := Nat.ne_of_lt (lt_size_of_slot hs)
    refine ⟨slot, by rw [Array.getElem?_push, if_neg hne, hs], hg.imp_right fun hr => ?_⟩
    exact ⟨hr.1, hr.2.1, by simp⟩

theorem Spent.remove {h : Handle} (spent : m.Spent h) (h' : Handle) :
    (m.remove h').2.Spent h := by
  obtain ⟨slot, hs, hg⟩ := spent
  rcases remove_cases m h' with ⟨-, e⟩ | ⟨a, ha, hr⟩
  · rw [e]
    exact ⟨slot, hs, hg⟩
  have hslot := (get?_eq_some_iff h' a).1 ha
  by_cases hidx : h.index = h'.index
  · -- the slot had a value, so its generation is later than that of `h` already
    rw [hidx, hslot] at hs
    obtain rfl := Option.some.inj hs
    have hlater : h.generation < h'.generation := hg.resolve_right fun hr => by simp at hr
    have hlt := lt_size_of_slot hslot
    rcases hr with ⟨hn, e⟩ | ⟨-, e⟩
    · refine ⟨⟨h'.generation + 1, none⟩, ?_, Or.inl ?_⟩
      · rw [e, hidx, Array.getElem?_setIfInBounds_self_of_lt hlt]
      · rw [UInt32.lt_iff_toNat_lt] at hlater ⊢
        rw [UInt32.toNat_add, UInt32.toNat_one, Nat.mod_eq_of_lt hn]
        omega
    · exact ⟨⟨h'.generation, none⟩,
        by rw [e, hidx, Array.getElem?_setIfInBounds_self_of_lt hlt], Or.inl hlater⟩
  · have hne : h'.index.toNat ≠ h.index.toNat := fun e => hidx (UInt32.toNat_inj.1 e).symm
    rcases hr with ⟨-, e⟩ | ⟨-, e⟩
    · refine ⟨slot, by rw [e, Array.getElem?_setIfInBounds_ne hne, hs], hg.imp_right fun hr => ?_⟩
      rw [e]
      exact ⟨hr.1, hr.2.1, by simp [hr.2.2, hidx]⟩
    · refine ⟨slot, by rw [e, Array.getElem?_setIfInBounds_ne hne, hs], hg.imp_right fun hr => ?_⟩
      rw [e]
      exact hr

end Drawbridge.SlotMap
