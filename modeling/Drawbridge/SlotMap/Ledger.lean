import Drawbridge.SlotMap

/-!
# Ledgers

A slot map together with the handles it gave out, by the order in which it did.
-/

namespace Drawbridge

/-- A slot map and every handle that it gave out, in order. -/
structure Ledger (α : Type) where
  map : SlotMap α
  issued : Array Handle

namespace Ledger

variable {α : Type}

/-- The ledger of an empty map. -/
def empty : Ledger α := ⟨.empty, #[]⟩

/-- The handle that was given out as number `k`, null if there is none. -/
def handle (l : Ledger α) (k : Nat) : Handle := l.issued.getD k .null

/-- Holds `a` under a fresh handle, which is noted down. -/
def insert (l : Ledger α) (a : α) : Handle × Ledger α :=
  let (h, map) := l.map.insert a
  (h, ⟨map, l.issued.push h⟩)

/-- Takes the value under `h` out of the map. Its handle stays noted down. -/
def remove (l : Ledger α) (h : Handle) : Option α × Ledger α :=
  let (a, map) := l.map.remove h
  (a, { l with map })

/-- The map after `n` times holding `a` and taking it out again, and the last handle, or `h`. -/
def churn (a : α) : Nat → Handle × SlotMap α → Handle × SlotMap α
  | 0, p => p
  | n + 1, (_, map) =>
    let (h, map) := map.insert a
    churn a n (h, (map.remove h).2)

/-- Holds `a` and takes it out again, `n` times. Only the last handle is noted down. -/
def cycle (l : Ledger α) (a : α) (n : Nat) : Handle × Ledger α :=
  let (h, map) := churn a n (.null, l.map)
  (h, ⟨map, l.issued.push h⟩)

end Ledger

end Drawbridge
