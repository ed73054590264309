import Drawbridge.Double

/-!
# Handles

A handle names a slot and the generation of the slot's content. Packed in a 64-bit word the
generation is the high half, so the null handle is the word 0 and every handle with a generation is
at least `2 ^ 32`.
-/

namespace Drawbridge

/-- A slot by its index and the generation of its content. -/
structure Handle where
  index : UInt32
  generation : UInt32
  deriving DecidableEq, Hashable, Repr, Inhabited

namespace Handle

/-- The handle that leads nowhere. -/
def null : Handle := ⟨0, 0⟩

/-- Whether it is the null handle. -/
def isNull (h : Handle) : Bool := h == null

/-- The word that stands for a handle, with the generation in its high half. -/
def toBits (h : Handle) : UInt64 := (h.generation.toUInt64 <<< 32) ||| h.index.toUInt64

/-- The handle that a word stands for. -/
def ofBits (w : UInt64) : Handle := ⟨w.toUInt32, (w >>> 32).toUInt32⟩

/-- The word in hexadecimal, all sixteen digits. -/
def toHex (h : Handle) : String :=
  "0x" ++ String.ofList (Double.hexDigits 16 h.toBits.toNat)

/-- The parts by name. -/
def describe (h : Handle) : String :=
  "ContextHandle \x7b index: " ++ toString h.index ++ ", generation: "
    ++ toString h.generation ++ " \x7d"

end Handle

end Drawbridge
