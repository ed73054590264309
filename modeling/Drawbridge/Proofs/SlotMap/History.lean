import Drawbridge.Proofs.Handle
import Drawbridge.Proofs.SlotMap.Resolution

/-!
# Slot maps refine maps

What was done with a slot map since it was empty is a `History`, with any handles given to it:
issued, removed long ago, null or made up.  It determines what the map holds: `Holds` says that a
value was issued under a handle that was not removed since, and `held` lists what is held.  A handle
once issued leads to its value or is spent (`History.get?_or_spent`), a spent handle stays spent and
is never issued (`History.stays_spent`), and so no handle is issued twice (`History.refines_map`).
-/

namespace Drawbridge.SlotMap

variable {α : Type} {m : SlotMap α}

/-- Something done with a slot map, and what came back. -/
inductive Deed (α : Type) where
  | issued (h : Handle) (a : α)
  | looked (h : Handle) (answer : Option α)
  | removed (h : Handle) (answer : Option α)

/-- The map is what the deeds, the latest first, made of the empty map. -/
inductive History : List (Deed α) → SlotMap α → Prop
  | empty : History [] .empty
  | insert {past : List (Deed α)} {m : SlotMap α} (a : α) :
      History past m → History (.issued (m.insert a).1 a :: past) (m.insert a).2
  | get {past : List (Deed α)} {m : SlotMap α} (h : Handle) :
      History past m → History (.looked h (m.get? h) :: past) m
  | remove {past : List (Deed α)} {m : SlotMap α} (h : Handle) :
      History past m → History (.removed h (m.remove h).1 :: past) (m.remove h).2

/-! ## What a history holds -/

/-- The handles given out. -/
def issued : List (Deed α) → List Handle
  | [] => []
  | .issued h _ :: past => h :: issued past
  | .looked .. :: past => issued past
  | .removed .. :: past => issued past

/-- The value was issued under the handle, which was not removed since. -/
def Holds (past : List (Deed α)) (h : Handle) (a : α) : Prop :=
  ∃ later earlier, past = later ++ .issued h a :: earlier ∧
    ∀ answer, Deed.removed h answer ∉ later

/-- The handles issued and not removed since, with their values. -/
def held : List (Deed α) → List (Handle × α)
  | [] => []
  | .issued h a :: past => (h, a) :: held past
  | .looked .. :: past => held past
  | .removed h _ :: past => (held past).filter (·.1 ≠ h)

section Held

variable {past : List (Deed α)} {h h' : Handle} {a b : α}

theorem not_holds_nil : ¬ Holds [] h a := by
  rintro ⟨later, earlier, e, -⟩
  simp at e

/-- A deed that does not remove the handle leaves it held, or it is the one that issued it. -/
theorem holds_cons {deed : Deed α} :
    Holds (deed :: past) h a ↔
      deed = .issued h a ∨ (∀ answer, deed ≠ .removed h answer) ∧ Holds past h a := by
  constructor
  · rintro ⟨later, earlier, e, kept⟩
    cases later with
    | nil => exact Or.inl (List.cons.inj e).1
    | cons last later =>
      obtain ⟨rfl, rfl⟩ := List.cons.inj e
      refine Or.inr ⟨fun answer e => kept answer (by simp [e]), later, earlier, rfl, ?_⟩
      exact fun answer hm => kept answer (List.mem_cons_of_mem _ hm)
  · rintro (rfl | ⟨other, later, earlier, rfl, kept⟩)
    · exact ⟨[], past, rfl, by simp⟩
    · refine ⟨deed :: later, earlier, rfl, fun answer hm => ?_⟩
      rcases List.mem_cons.1 hm with e | hm
      · exact other answer e.symm
      · exact kept answer hm

theorem mem_held_iff : (h, a) ∈ held past ↔ Holds past h a := by
  induction past with
  | nil => simp [held, not_holds_nil]
  | cons deed past ih =>
    rw [holds_cons]
    cases deed with
    | issued h' b => simp [held, ih, @eq_comm _ h, @eq_comm _ a]
    | looked h' answer => simp [held, ih]
    | removed h' answer => simp [held, ih, @eq_comm _ h, and_comm]

end Held

namespace History

variable {past : List (Deed α)}

theorem sound (history : History past m) : m.Sound := by
  induction history with
  | empty => exact sound_empty
  | insert a _ ih => exact ih.insert a
  | get h _ ih => exact ih
  | remove h _ ih => exact ih.remove h

/-! ## Spent handles are never issued -/

theorem fresh_not_spent (sound : m.Sound) (a : α) (room : (m.insert a).2.slots.size ≤ 2 ^ 32) :
    ¬ m.Spent (m.insert a).1 := by
  rintro ⟨slot, hs, hg⟩
  rcases insert_cases sound a with ⟨i, rest, g, hf, hi, e⟩ | ⟨-, e⟩
  · rw [e] at hs hg
    rw [hi] at hs
    obtain rfl := Option.some.inj hs
    rcases hg with hlt | ⟨-, -, hfree⟩
    · exact UInt32.lt_irrefl g hlt
    · exact hfree (by simp [hf])
  · rw [e, Array.size_push] at room
    rw [e, toNat_size room] at hs
    exact Nat.lt_irrefl _ (lt_size_of_slot hs)

/-- With the last generation of a slot all its handles are spent. -/
theorem spent_of_last (sound : m.Sound) {h h' : Handle} {a : α} (ha : m.get? h = some a)
    (last : h.generation.toNat + 1 = 2 ^ 32) (same : h'.index = h.index) :
    (m.remove h).2.Spent h' := by
  have hslot := (get?_eq_some_iff h a).1 ha
  rcases remove_cases m h with ⟨hn, -⟩ | ⟨_, -, ⟨hg, -⟩ | ⟨-, e⟩⟩
  · rw [ha] at hn
    cases hn
  · omega
  · refine ⟨⟨h.generation, none⟩, ?_, ?_⟩
    · rw [e, same, Array.getElem?_setIfInBounds_self_of_lt (lt_size_of_slot hslot)]
    · rw [e, same]
      have hlt := h'.generation.toNat_lt
      rcases Nat.lt_or_ge h'.generation.toNat h.generation.toNat with hold | hge
      · exact Or.inl (UInt32.lt_iff_toNat_lt.2 hold)
      · have hsame : h'.generation.toNat = h.generation.toNat := by omega
        exact Or.inr ⟨UInt32.toNat_inj.1 hsame, rfl, sound.index_notMem ha⟩

/-- Once a handle is spent it stays so, and no later deed issues it. -/
theorem stays_spent {later earlier : List (Deed α)} (history : History (later ++ earlier) m)
    (room : m.slots.size ≤ 2 ^ 32) :
    ∃ m₀, History earlier m₀ ∧ ∀ h, m₀.Spent h → m.Spent h ∧ h ∉ issued later := by
  induction later generalizing m with
  | nil => exact ⟨m, history, fun h spent => ⟨spent, by simp [issued]⟩⟩
  | cons deed later ih =>
    cases history with
    | @insert _ m a before =>
      obtain ⟨m₀, start, keeps⟩ :=
        ih before (Nat.le_trans (size_le_size_insert m a) room)
      refine ⟨m₀, start, fun h spent => ?_⟩
      obtain ⟨spent', unissued⟩ := keeps h spent
      have hne : h ≠ (m.insert a).1 := by
        rintro rfl
        exact fresh_not_spent before.sound a room spent'
      exact ⟨spent'.insert before.sound a, by simp [issued, hne, unissued]⟩
    | get h' before => exact ih before room
    | @remove _ m h' before =>
      obtain ⟨m₀, start, keeps⟩ := ih before (size_remove m h' ▸ room)
      refine ⟨m₀, start, fun h spent => ?_⟩
      obtain ⟨spent', unissued⟩ := keeps h spent
      exact ⟨spent'.remove h', unissued⟩

/-- A handle that was issued leads to its value or is spent. -/
theorem get?_or_spent (history : History past m) (room : m.slots.size ≤ 2 ^ 32) :
    ∀ h ∈ issued past, (∃ a, m.get? h = some a) ∨ m.Spent h := by
  induction history with
  | empty => simp [issued]
  | @insert past m a before ih =>
    intro h hm
    by_cases hnew : h = (m.insert a).1
    · exact Or.inl ⟨a, by rw [get?_insert before.sound a room, if_pos hnew]⟩
    · have hold := ih (Nat.le_trans (size_le_size_insert m a) room) h
        ((List.mem_cons.1 hm).resolve_left hnew)
      refine hold.imp (fun ⟨b, hb⟩ => ⟨b, ?_⟩) fun spent => spent.insert before.sound a
      rw [get?_insert before.sound a room, if_neg hnew, hb]
  | get h' _ ih => exact ih room
  | @remove past m h' before ih =>
    intro h hm
    rcases ih (size_remove m h' ▸ room) h hm with ⟨b, hb⟩ | spent
    · by_cases hrem : h = h'
      · subst hrem
        exact Or.inr (spent_remove before.sound hb)
      · exact Or.inl ⟨b, by rw [get?_remove, if_neg hrem, hb]⟩
    · exact Or.inr (spent.remove h')

theorem fresh_not_issued (history : History past m) (a : α)
    (room : (m.insert a).2.slots.size ≤ 2 ^ 32) : (m.insert a).1 ∉ issued past := by
  intro hm
  rcases history.get?_or_spent (Nat.le_trans (size_le_size_insert m a) room) _ hm with
    ⟨b, hb⟩ | spent
  · rw [get?_insert_fst history.sound a room] at hb
    cases hb
  · exact fresh_not_spent history.sound a room spent

theorem issued_nodup (history : History past m) (room : m.slots.size ≤ 2 ^ 32) :
    (issued past).Nodup := by
  induction history with
  | empty => exact List.nodup_nil
  | @insert past m a before ih =>
    exact List.nodup_cons.2 ⟨before.fresh_not_issued a room,
      ih (Nat.le_trans (size_le_size_insert m a) room)⟩
  | get h _ ih => exact ih room
  | @remove past m h before ih => exact ih (size_remove m h ▸ room)

theorem issued_generation (history : History past m) : ∀ h ∈ issued past, h.generation ≠ 0 := by
  induction history with
  | empty => simp [issued]
  | @insert past m a before ih =>
    intro h hm
    rcases List.mem_cons.1 hm with rfl | hm
    · exact insert_generation_ne_zero before.sound a
    · exact ih h hm
  | get _ _ ih => exact ih
  | remove _ _ ih => exact ih

/-- The history before a removal. -/
theorem before_remove {h : Handle} {answer : Option α}
    (history : History (.removed h answer :: past) m) :
    ∃ m₀, History past m₀ ∧ answer = m₀.get? h ∧ m = (m₀.remove h).2 := by
  generalize e : Deed.removed h answer :: past = whole at history
  cases history with
  | @remove _ m₀ _ before =>
    cases e
    exact ⟨m₀, before, remove_fst m₀ h, rfl⟩
  | empty => cases e
  | insert => cases e
  | get => cases e

/-- Of a slot that lost its last generation no handle is issued again. -/
theorem index_retired {later earlier : List (Deed α)} {h : Handle} {a : α}
    (history : History (later ++ .removed h (some a) :: earlier) m)
    (room : m.slots.size ≤ 2 ^ 32) (last : h.generation.toNat + 1 = 2 ^ 32) :
    ∀ h' ∈ issued later, h'.index ≠ h.index := by
  intro h' hm hidx
  obtain ⟨m₁, start, keeps⟩ := history.stays_spent room
  obtain ⟨m₀, before, ha, rfl⟩ := start.before_remove
  exact (keeps h' (spent_of_last before.sound ha.symm last hidx)).2 hm

/-! ## The map -/

theorem get?_eq_some_iff_holds (history : History past m) (room : m.slots.size ≤ 2 ^ 32)
    (h : Handle) (a : α) : m.get? h = some a ↔ Holds past h a := by
  induction history with
  | empty => simp [not_holds_nil, SlotMap.get?, SlotMap.empty]
  | @insert past m b before ih =>
    have ih := ih (Nat.le_trans (size_le_size_insert m b) room)
    rw [get?_insert before.sound b room, holds_cons, ← ih]
    by_cases hnew : h = (m.insert b).1
    · simp [hnew, get?_insert_fst before.sound b room]
    · simp [hnew, Ne.symm hnew]
  | get h' _ ih => simp [holds_cons, ih room]
  | @remove past m h' before ih =>
    rw [get?_remove, holds_cons, ← ih (size_remove m h' ▸ room)]
    by_cases hrem : h = h'
    · simp [hrem]
    · simp [hrem, Ne.symm hrem]

theorem held_nodup (history : History past m) (room : m.slots.size ≤ 2 ^ 32) :
    ((held past).map Prod.fst).Nodup := by
  induction history with
  | empty => exact List.nodup_nil
  | @insert past m a before ih =>
    have room' := Nat.le_trans (size_le_size_insert m a) room
    refine List.nodup_cons.2 ⟨fun hm => ?_, ih room'⟩
    obtain ⟨⟨h, b⟩, hb, rfl⟩ := List.mem_map.1 hm
    rw [mem_held_iff, ← before.get?_eq_some_iff_holds room',
      get?_insert_fst before.sound a room] at hb
    cases hb
  | get h _ ih => exact ih room
  | @remove past m h before ih =>
    exact (ih (size_remove m h ▸ room)).sublist (List.filter_sublist.map Prod.fst)

theorem size_eq_length_held (history : History past m) (room : m.slots.size ≤ 2 ^ 32) :
    m.size = (held past).length := by
  induction history with
  | empty => rfl
  | @insert past m a before ih =>
    have live : (m.insert a).2.size = m.size + 1 := by
      rcases insert_cases before.sound a with ⟨i, rest, g, -, -, e⟩ | ⟨-, e⟩ <;> rw [e] <;> rfl
    rw [live, ih (Nat.le_trans (size_le_size_insert m a) room)]
    rfl
  | get h _ ih => exact ih room
  | @remove past m h before ih =>
    rw [size_remove] at room
    have ih := ih room
    have erased : (held (.removed h (m.remove h).1 :: past)).length =
        (((held past).map Prod.fst).erase h).length := by
      rw [(before.held_nodup room).erase_eq_filter, List.filter_map, List.length_map, held]
      refine congrArg List.length (List.filter_congr fun p _ => ?_)
      rw [Bool.eq_iff_iff]
      simp
    rw [erased, List.length_erase, List.length_map, ← ih]
    rcases remove_cases m h with ⟨hn, e⟩ | ⟨a, ha, hr⟩
    · have unheld : h ∉ (held past).map Prod.fst := by
        intro hm
        obtain ⟨⟨_, b⟩, hb, rfl⟩ := List.mem_map.1 hm
        rw [mem_held_iff, ← before.get?_eq_some_iff_holds room, hn] at hb
        cases hb
      rw [e, if_neg unheld]
    · have hheld := mem_held_iff.2 ((before.get?_eq_some_iff_holds room h a).1 ha)
      rw [if_pos (List.mem_map_of_mem hheld)]
      rcases hr with ⟨-, e⟩ | ⟨-, e⟩ <;> rw [e] <;> rfl

/-- A slot map is a map from handles that are never repeated to values. -/
theorem refines_map (history : History past m) (room : m.slots.size ≤ 2 ^ 32) :
    -- the handles given out are all different, none is null, and a retired slot gives out no more
    ((issued past).Nodup ∧
      (∀ h ∈ issued past, 2 ^ 32 ≤ h.toBits.toNat ∧ h ≠ .null) ∧
      ∀ later earlier h a, past = later ++ .removed h (some a) :: earlier →
        h.generation.toNat = 2 ^ 32 - 1 → ∀ h' ∈ issued later, h'.index ≠ h.index) ∧
    -- any handle leads to what was issued under it and not removed since, and there are `size` such
    ((∀ h a, m.get? h = some a ↔ Holds past h a) ∧
      ((held past).map Prod.fst).Nodup ∧ m.size = (held past).length) ∧
    -- a removal returns what the handle led to and forgets it, and otherwise does nothing
    ((∀ h a, Holds past h a → (m.remove h).1 = some a ∧ (m.remove h).2.get? h = none) ∧
      ∀ h, (∀ a, ¬ Holds past h a) → m.remove h = (none, m)) ∧
    -- no operation changes what another handle leads to
    (∀ h h', h' ≠ h → (m.remove h).2.get? h' = m.get? h') ∧
    ∀ a, (m.insert a).2.slots.size ≤ 2 ^ 32 →
      (m.insert a).1 ∉ issued past ∧ (m.insert a).2.get? (m.insert a).1 = some a ∧
      ∀ h, h ≠ (m.insert a).1 → (m.insert a).2.get? h = m.get? h := by
  have leads := history.get?_eq_some_iff_holds room
  refine ⟨⟨history.issued_nodup room, fun h hm => ?_, ?_⟩,
    ⟨leads, history.held_nodup room, history.size_eq_length_held room⟩,
    ⟨fun h a holds => ?_, fun h unheld => ?_⟩, fun h h' hne => ?_, fun a room' => ?_⟩
  · have hg := history.issued_generation h hm
    exact ⟨Handle.le_toNat_toBits hg, fun e => hg (e ▸ rfl)⟩
  · rintro later earlier h a rfl last
    exact history.index_retired room (by omega)
  · rw [remove_fst, get?_remove, if_pos rfl]
    exact ⟨(leads h a).2 holds, rfl⟩
  · rcases remove_cases m h with ⟨-, e⟩ | ⟨a, ha, -⟩
    · exact e
    · exact absurd ((leads h a).1 ha) (unheld a)
  · rw [get?_remove, if_neg hne]
  · refine ⟨history.fresh_not_issued a room', ?_, fun h hne => ?_⟩
    · rw [get?_insert history.sound a room', if_pos rfl]
    · rw [get?_insert history.sound a room', if_neg hne]

end History

/-! ## The last generation -/

theorem insert_vacated (g : UInt32) (a : α) :
    insert ⟨#[⟨g, none⟩], [0], 0⟩ a = (⟨0, g⟩, ⟨#[⟨g, some a⟩], [], 1⟩) := rfl

theorem remove_only {g : UInt32} (a : α) (hg : g.toNat + 1 < 2 ^ 32) :
    remove ⟨#[⟨g, some a⟩], [], 1⟩ ⟨0, g⟩ = (some a, ⟨#[⟨g + 1, none⟩], [0], 0⟩) := by
  simp [remove, nextGeneration?_of_lt hg]

theorem remove_last {g : UInt32} (a : α) (hg : g.toNat + 1 = 2 ^ 32) :
    remove ⟨#[⟨g, some a⟩], [], 1⟩ ⟨0, g⟩ = (some a, ⟨#[⟨g, none⟩], [], 0⟩) := by
  simp [remove, nextGeneration?_of_last hg]

/-- One value after the other in one slot: its generation grows by one each time. -/
theorem History.worn (n : Nat) (hn : n + 2 < 2 ^ 32) :
    ∃ past, History past (⟨#[⟨(n + 2).toUInt32, none⟩], [0], 0⟩ : SlotMap Unit) := by
  induction n with
  | zero => exact ⟨_, (History.empty.insert ()).remove ⟨0, 1⟩⟩
  | succ n ih =>
    obtain ⟨past, history⟩ := ih (by omega)
    have hnat : (n + 2).toUInt32.toNat = n + 2 :=
      UInt32.toNat_ofNat_of_lt' (show n + 2 < 2 ^ 32 by omega)
    have vacated := (history.insert ()).remove ⟨0, (n + 2).toUInt32⟩
    rw [insert_vacated, remove_only () (by omega)] at vacated
    have next : (n + 2).toUInt32 + 1 = (n + 1 + 2).toUInt32 :=
      (UInt32.ofNat_add (n + 2) 1).symm
    exact ⟨_, next ▸ vacated⟩

/-- The slot that came to its last generation is retired: the next handle is of another one. -/
theorem refines_map_retired :
    ∃ past, History past (⟨#[⟨4294967295, none⟩, ⟨1, some ()⟩], [], 1⟩ : SlotMap Unit) ∧
      ⟨0, 4294967295⟩ ∈ issued past ∧ (issued past).Nodup ∧
      Holds past ⟨1, 1⟩ () ∧ ¬ Holds past ⟨0, 4294967295⟩ () := by
  obtain ⟨past, history⟩ := History.worn 4294967293 (by decide)
  have last : (4294967293 + 2).toUInt32 = 4294967295 := rfl
  have retired := ((history.insert ()).remove ⟨0, 4294967295⟩).insert ()
  rw [last, insert_vacated, remove_last () (by decide)] at retired
  have refines := retired.refines_map (by decide)
  have leads := refines.2.1.1
  exact ⟨_, retired, by simp [issued], refines.1.1, (leads ⟨1, 1⟩ ()).1 rfl,
    fun holds => absurd ((leads _ ()).2 holds) (by decide)⟩

end Drawbridge.SlotMap
