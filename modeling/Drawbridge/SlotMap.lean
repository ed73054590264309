import Drawbridge.Handle

/-!
# Slot maps

Values under handles that are never issued twice. A slot counts its occupants in its generation;
vacating it makes the generation one higher, and a slot whose generation cannot grow is retired.
Vacated slots are taken up again, the last one first.
-/

namespace Drawbridge

/-- A slot: the generation of its occupant, or of the next one while it is vacant, and the value it
holds. -/
structure Slot (α : Type) where
  generation : UInt32
  value : Option α

/-- Slots with a list of the vacant ones and the number of occupied ones. -/
structure SlotMap (α : Type) where
  slots : Array (Slot α)
  /-- the vacated slots that may be taken up again, the last one vacated first -/
  free : List UInt32
  live : Nat

namespace SlotMap

variable {α : Type}

/-- The map without slots. -/
def empty : SlotMap α := ⟨#[], [], 0⟩

instance : Inhabited (SlotMap α) := ⟨empty⟩

/-- The number of values held. -/
def size (m : SlotMap α) : Nat := m.live

/-- Holds `a` under a fresh handle. -/
def insert (m : SlotMap α) (a : α) : Handle × SlotMap α :=
  match m.free with
  | i :: rest =>
    match m.slots[i.toNat]? with
    | some slot =>
      (⟨i, slot.generation⟩,
        { slots := m.slots.set! i.toNat { slot with value := some a }
          free := rest
          live := m.live + 1 })
    | none => (⟨i, 0⟩, { m with free := rest, live := m.live + 1 })
  | [] =>
    (⟨m.slots.size.toUInt32, 1⟩,
      { m with slots := m.slots.push ⟨1, some a⟩, live := m.live + 1 })

/-- The value under `h`, unless `h` was never issued or its value is gone. -/
def get? (m : SlotMap α) (h : Handle) : Option α :=
  match m.slots[h.index.toNat]? with
  | some slot => if slot.generation = h.generation then slot.value else none
  | none => none

/-- The generation after `g`, if there is one. -/
def nextGeneration? (g : UInt32) : Option UInt32 :=
  if g.toNat + 1 < UInt32.size then some (g + 1) else none

/-- Takes the value under `h` out and vacates its slot. -/
def remove (m : SlotMap α) (h : Handle) : Option α × SlotMap α :=
  match m.slots[h.index.toNat]? with
  | none => (none, m)
  | some slot =>
    if slot.generation ≠ h.generation then (none, m)
    else
      match slot.value with
      | none => (none, m)
      | some a =>
        match nextGeneration? slot.generation with
        | some g =>
          (some a,
            { slots := m.slots.set! h.index.toNat ⟨g, none⟩
              free := h.index :: m.free
              live := m.live - 1 })
        | none =>
          (some a,
            { m with
              slots := m.slots.set! h.index.toNat ⟨slot.generation, none⟩
              live := m.live - 1 })

end SlotMap

end Drawbridge
