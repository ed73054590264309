import Drawbridge.Json.Text

/-!
# Passing over JSON values

A value that nobody asks for is held against the grammar and forgotten. Of its numbers only the
spelling counts.
-/

namespace Drawbridge.Json.Reader

/-- The exponent of a number, from its letter on. -/
def skipExponent : Reader Unit := do
  advance
  match ← peek? with
  | some '+' | some '-' => advance
  | _ => pure ()
  match ← peek? with
  | none => fail .invalidNumber
  | some c => if c.isDigit then discard digits else failNext .invalidNumber

/-- The fraction of a number, from its point on. -/
def skipFraction : Reader Unit := do
  advance
  let ds ← digits
  if ds.isEmpty then failNext .invalidNumber
  else
    match ← peek? with
    | some 'e' | some 'E' => skipExponent
    | _ => pure ()

/-- A number without its sign. -/
def skipNumber : Reader Unit := do
  match ← peek? with
  | none => fail .invalidNumber
  | some c =>
    if !c.isDigit then failNext .invalidNumber
    else
      if c = '0' then
        advance
        match ← peek? with
        | some d => if d.isDigit then failNext .invalidNumber else pure ()
        | none => pure ()
      else discard digits
      match ← peek? with
      | some '.' => skipFraction
      | some 'e' | some 'E' => skipExponent
      | _ => pure ()

/-- A key and its colon, up to the value. -/
def skipKey : Reader Unit := do
  match ← peekToken? with
  | some '"' => advance
  | some _ => failNext .keyNotString
  | none => failNext .endInObject
  skipText
  match ← peekToken? with
  | some ':' => advance
  | some _ => failNext .expectedColon
  | none => failNext .endInObject

mutual

/-- Any value; `n` bounds its parts. -/
def skipValue : Nat → Reader Unit
  | 0 => fail .endInValue
  | n + 1 => do
    match ← peekToken? with
    | none => failNext .endInValue
    | some c =>
      if c = 'n' then advance *> word ['u', 'l', 'l']
      else if c = 't' then advance *> word ['r', 'u', 'e']
      else if c = 'f' then advance *> word ['a', 'l', 's', 'e']
      else if c = '-' then advance *> skipNumber
      else if c.isDigit then skipNumber
      else if c = '"' then advance *> skipText
      else if c = '[' then do
        advance
        match ← peekToken? with
        | some ']' => advance
        | some _ => skipValue n; skipItems n
        | none => failNext .endInList
      else if c = '\x7b' then do
        advance
        match ← peekToken? with
        | some '\x7d' => advance
        | some _ => skipKey; skipValue n; skipMembers n
        | none => failNext .endInObject
      else failNext .expectedValue

/-- The rest of a list after one of its values. -/
def skipItems : Nat → Reader Unit
  | 0 => fail .endInValue
  | n + 1 => do
    match ← peekToken? with
    | some ',' => advance; skipValue n; skipItems n
    | some ']' => advance
    | some _ => failNext .expectedListComma
    | none => failNext .endInList

/-- The rest of an object after one of its values. -/
def skipMembers : Nat → Reader Unit
  | 0 => fail .endInValue
  | n + 1 => do
    match ← peekToken? with
    | some ',' => advance; skipKey; skipValue n; skipMembers n
    | some '\x7d' => advance
    | some _ => failNext .expectedObjectComma
    | none => failNext .endInObject

end

/-- Passes over the next value. -/
def skip : Reader Unit := do skipValue (← fuel)

end Drawbridge.Json.Reader
