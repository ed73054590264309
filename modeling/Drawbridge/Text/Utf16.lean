/-!
# Text as sequences of 16-bit units

A script engine holds text as UTF-16 units and lets a surrogate stand alone. `ofString` writes
Unicode text in units, `decode` reads it back, and names the place of the first unit that is no
text: its offset counted in bytes of UTF-8, where a lone surrogate takes three.
-/

namespace Drawbridge

/-- A text as a script engine holds it. -/
structure Utf16 where
  array : Array UInt16
  deriving DecidableEq, Hashable, Repr, Inhabited

namespace Utf16

/-- The units in order. -/
def units (s : Utf16) : List UInt16 := s.array.toList

/-- The text of some units. -/
def ofUnits (us : List UInt16) : Utf16 := ⟨us.toArray⟩

/-! ## Units of a character -/

/-- Whether a unit is the first half of a surrogate pair. -/
def isHigh (u : UInt16) : Bool := 0xD800 ≤ u.toNat && u.toNat < 0xDC00

/-- Whether a unit is the second half of a surrogate pair. -/
def isLow (u : UInt16) : Bool := 0xDC00 ≤ u.toNat && u.toNat < 0xE000

/-- One unit below `U+10000`, a surrogate pair from there on. -/
def ofChar (c : Char) : List UInt16 :=
  if c.toNat < 0x10000 then [c.toNat.toUInt16]
  else [(0xD800 + (c.toNat - 0x10000) / 0x400).toUInt16,
    (0xDC00 + (c.toNat - 0x10000) % 0x400).toUInt16]

/-- The code point of a surrogate pair. -/
def pair (high low : UInt16) : Nat :=
  0x10000 + (high.toNat - 0xD800) * 0x400 + (low.toNat - 0xDC00)

/-! ## Text -/

/-- The text of some characters. -/
def ofList (cs : List Char) : Utf16 := ofUnits (cs.flatMap ofChar)

/-- Unicode text in units. -/
def ofString (s : String) : Utf16 := ofList s.toList

instance : Coe String Utf16 := ⟨ofString⟩

/-- The number of bytes that UTF-8 takes for a unit that is no half of a pair. -/
def unitBytes (u : UInt16) : Nat :=
  if u.toNat < 0x80 then 1 else if u.toNat < 0x800 then 2 else 3

/-- The characters, or the byte offset of the first lone surrogate; `offset` bytes came before. -/
def decodeFrom (offset : Nat) : List UInt16 → Except Nat (List Char)
  | [] => .ok []
  | u :: rest =>
    if isHigh u then
      match rest with
      | [] => .error offset
      | v :: rest =>
        if isLow v then (Char.ofNat (pair u v) :: ·) <$> decodeFrom (offset + 4) rest
        else .error offset
    else if isLow u then .error offset
    else (Char.ofNat u.toNat :: ·) <$> decodeFrom (offset + unitBytes u) rest

/-- The text, or the byte offset of the first lone surrogate. -/
def decode (s : Utf16) : Except Nat String := String.ofList <$> decodeFrom 0 s.units

/-- The text, if every surrogate is paired. -/
def toString? (s : Utf16) : Option String := s.decode.toOption

/-- The text with U+FFFD for each lone surrogate. -/
def lossyFrom : List UInt16 → List Char
  | [] => []
  | u :: rest =>
    if isHigh u then
      match rest with
      | [] => ['\uFFFD']
      | v :: tail =>
        if isLow v then Char.ofNat (pair u v) :: lossyFrom tail
        else '\uFFFD' :: lossyFrom (v :: tail)
    else if isLow u then '\uFFFD' :: lossyFrom rest
    else Char.ofNat u.toNat :: lossyFrom rest

/-- The text with U+FFFD for each lone surrogate, as a string. -/
def lossy (s : Utf16) : String := String.ofList (lossyFrom s.units)

/-! ## Operations -/

/-- The number of units. -/
def length (s : Utf16) : Nat := s.array.size

/-- Whether there are no units. -/
def isEmpty (s : Utf16) : Bool := s.array.isEmpty

/-- One text behind the other. -/
def append (s t : Utf16) : Utf16 := ⟨s.array ++ t.array⟩

instance : Append Utf16 := ⟨append⟩

/-- As many whole characters from the head as fit into so many bytes of UTF-8. -/
def fitting : Nat → List UInt16 → List UInt16
  | _, [] => []
  | bytes, u :: rest =>
    match rest with
    | v :: tail =>
      if isHigh u && isLow v then
        if 4 ≤ bytes then u :: v :: fitting (bytes - 4) tail else []
      else if unitBytes u ≤ bytes then u :: fitting (bytes - unitBytes u) (v :: tail)
      else []
    | [] => if unitBytes u ≤ bytes then [u] else []

/-- The head of a text that fits into so many bytes. -/
def head (bytes : Nat) (s : Utf16) : Utf16 := ofUnits (fitting bytes s.units)

/-- The units of the first character: two for a pair, else one. -/
def firstChar : List UInt16 → List UInt16
  | u :: v :: _ => if isHigh u && isLow v then [u, v] else [u]
  | us => us

/-- The text `n` times in a row. -/
def replicate (n : Nat) (s : Utf16) : Utf16 :=
  match s.units with
  | [u] => ⟨Array.replicate n u⟩
  | _ => Nat.repeat (· ++ s) n ⟨#[]⟩

/-- Texts in a row with a separator between them. -/
def join (separator : Utf16) : List Utf16 → Utf16
  | [] => ⟨#[]⟩
  | s :: rest => rest.foldl (fun joined t => joined ++ separator ++ t) s

/-- Unit by unit, the order in which scripts compare text. -/
def lt : List UInt16 → List UInt16 → Bool
  | _, [] => false
  | [], _ :: _ => true
  | u :: us, v :: vs => u < v || (u == v && lt us vs)

/-- The bytes an engine stores: one a unit if every unit is below 256, else two. -/
def storedBytes (s : Utf16) : Nat :=
  if s.array.all (·.toNat < 256) then s.length else 2 * s.length

end Utf16

end Drawbridge
