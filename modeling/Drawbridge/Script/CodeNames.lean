import Drawbridge.Script.Syntax

/-!
# Names declared in code

Which names a function, or a source, has declared so far while it is read, block by block. A
declaration that clashes with another one is refused: `addVar`, `addBinding` and `addFunction` then
give `none`.
-/

namespace Drawbridge.Script

/-- How a name came to be declared in a block. -/
inductive NameKind where
  /-- by `let`, `const` or `class` -/
  | binding
  | function
  /-- as the value that a `catch` catches -/
  | caught
  deriving DecidableEq, Repr

/-- The names that one block declares. -/
structure BlockNames where
  declared : List (Utf16 × NameKind)
  /-- the names that `var` declares here or further in, and nowhere before -/
  vars : List Utf16

/-- The names that the code of a source or of a function declares, as far as it has been read. -/
structure CodeNames where
  isSource : Bool
  params : List Utf16
  /-- innermost first; the last one is the body -/
  blocks : List BlockNames
  /-- the names that `var` declares anywhere -/
  vars : List Utf16

namespace CodeNames

/-- Code of which nothing has been read but its parameters. -/
def start (isSource : Bool) (params : List Utf16) : CodeNames :=
  ⟨isSource, params, [⟨[], []⟩], []⟩

/-- Enters a block. -/
def openBlock (c : CodeNames) : CodeNames := { c with blocks := ⟨[], []⟩ :: c.blocks }

/-- Leaves the innermost block; what `var` declared there counts for the blocks around it. -/
def closeBlock (c : CodeNames) : CodeNames :=
  match c.blocks with
  | inner :: outer :: rest =>
    { c with blocks := { outer with vars := inner.vars ++ outer.vars } :: rest }
  | _ => c

/-- Whether the innermost block is the body. -/
def isBody (c : CodeNames) : Bool := c.blocks.length ≤ 1

/-- How many blocks further out the nearest declaration of a name is, and how it came about. -/
def nearest? (x : Utf16) : List BlockNames → Option (Nat × NameKind)
  | [] => none
  | b :: rest =>
    match b.declared.find? (·.1 == x) with
    | some (_, kind) => some (0, kind)
    | none => (nearest? x rest).map fun (depth, kind) => (depth + 1, kind)

/-- Whether a block here or further out declares a name, and not as a caught value. -/
def isBound (x : Utf16) (c : CodeNames) : Bool :=
  c.blocks.any fun b => b.declared.any fun (y, kind) => y == x && kind ≠ .caught

/-- Counts a name as one of `var` in the innermost block. -/
def noteVar (x : Utf16) (c : CodeNames) : CodeNames :=
  if c.vars.contains x || (!c.isSource && c.params.contains x) then c
  else
    let blocks := match c.blocks with
      | b :: rest => { b with vars := x :: b.vars } :: rest
      | [] => []
    { c with blocks, vars := x :: c.vars }

/-- A name that `var` declares must not be bound by a block around it. -/
def addVar (x : Utf16) (c : CodeNames) : Option CodeNames :=
  if c.isBound x then none else some (c.noteVar x)

/-- Declares a name in the innermost block. -/
def declare (x : Utf16) (kind : NameKind) (c : CodeNames) : CodeNames :=
  match c.blocks with
  | b :: rest => { c with blocks := { b with declared := (x, kind) :: b.declared } :: rest }
  | [] => c

/-- Whether a name declared in the innermost block would clash with an earlier declaration: there,
as the value that the block's own `catch` caught, or by a `var` within. Outside strict mode a
function may be declared again. -/
def clashes (strict : Bool) (x : Utf16) (kind : NameKind) (c : CodeNames) : Bool :=
  let earlier : Bool := match nearest? x c.blocks with
    | some (0, old) => strict || kind ≠ .function || old ≠ .function
    | some (2, .caught) => true
    | _ => false
  earlier || (kind ≠ .function && c.isBody && c.params.contains x)
    || (match c.blocks with
      | b :: _ => b.vars.contains x
      | [] => false)

/-- Declares a name in the innermost block, unless it clashes with another declaration. -/
def addBinding (strict : Bool) (x : Utf16) (kind : NameKind) (c : CodeNames) : Option CodeNames :=
  if c.clashes strict x kind then none else some (c.declare x kind)

/-- Whether a function declared in a block becomes a variable of the code as well: not in strict
mode, nor where a block around it binds the name, nor if it is a parameter. -/
def sharesFunction (strict : Bool) (x : Utf16) (c : CodeNames) : Bool :=
  !strict && !c.isBound x && !c.params.contains x

/-- Declares a function in a block. In the body of a source only a label can bring that about; the
name must then be new there. -/
def addFunction (strict : Bool) (x : Utf16) (c : CodeNames) : Option CodeNames :=
  if c.isSource && c.isBody then
    match c.blocks with
    | b :: _ => if b.vars.contains x || b.declared.any (·.1 == x) then none else some c
    | [] => some c
  else c.addBinding strict x .function

/-- Counts a function of a block as a variable of the code. -/
def noteShared (x : Utf16) (c : CodeNames) : CodeNames :=
  if c.vars.contains x then c else { c with vars := x :: c.vars }

end CodeNames

end Drawbridge.Script
