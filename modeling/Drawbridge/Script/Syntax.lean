import Drawbridge.Double
import Drawbridge.Text.Utf16

/-!
# Syntax of scripts

Expressions and statements, with marks where running can fail. A mark is no more exact than
backtraces are: it is the last place before that backtraces tell apart, in the order in which the
parts of a function run. Each function carries the text it was written as, which is its text form.
-/

namespace Drawbridge.Script

/-- A line and a column of a source. -/
structure Mark where
  line : Nat
  column : Nat
  deriving DecidableEq, Repr, Inhabited

/-- The operators on one value that compute a value from it. -/
inductive UnaryOp where
  | minus
  | plus
  | not
  | bitNot
  deriving DecidableEq, Repr

/-- The operators on two values that compute a value from both. -/
inductive BinaryOp where
  | add | sub | mul | div | rem | exp
  | shiftLeft | shiftRight | shiftRightZero
  | less | greater | lessEq | greaterEq
  | equal | notEqual | same | notSame
  | bitAnd | bitOr | bitXor
  | isIn | instanceOf
  deriving DecidableEq, Repr

/-- The operators that look at their second operand only if the first does not decide. -/
inductive LogicalOp where
  | and
  | or
  | coalesce
  deriving DecidableEq, Repr

/-- A value that a source writes down. -/
inductive Literal where
  | undefined
  | null
  | bool (b : Bool)
  | int (n : Int32)
  | float (x : Double)
  | bigInt (n : Int)
  | text (s : Utf16)
  deriving DecidableEq, Repr

/-- What a function is written as. An ordinary one can be called with `new`, a class in no other
way; an arrow has the `this` of its surroundings. -/
inductive Form where
  | ordinary
  | arrow
  | method
  | classBody
  deriving DecidableEq, Repr

/-- What code uses of its surroundings. -/
structure Uses where
  names : List Utf16
  this : Bool
  deriving DecidableEq, Repr

/-- A function as written; `σ` are statements. -/
structure Code (σ : Type) where
  name : Utf16
  /-- whether the function is known by its name within itself -/
  bindsName : Bool
  params : List Utf16
  body : List σ
  form : Form
  strict : Bool
  text : Utf16
  /-- where it begins -/
  mark : Mark
  uses : Uses

/-- The word that a declaration begins with. -/
inductive DeclareKind where
  | var
  | let
  | const
  deriving DecidableEq, Repr

mutual

/-- An expression. Marks are the places that errors are told to be at. -/
inductive Expr where
  | literal (v : Literal)
  | name (x : Utf16) (mark : Mark)
  | this
  | array (items : List Item)
  | object (members : List Member)
  | function (code : Code Stmt)
  /-- a class with what its instances share and what it has itself; one that has a name knows itself
  by it -/
  | classOf (code : Code Stmt) (shared own : List Member)
  | unary (op : UnaryOp) (e : Expr) (mark : Mark)
  | typeOf (e : Expr)
  /-- the type of a name that need not stand for anything -/
  | typeOfName (x : Utf16) (mark : Mark)
  | void (e : Expr)
  | delete (target : Reference) (mark : Mark)
  | update (isBefore : Bool) (delta : Int) (target : Reference) (mark : Mark)
  | binary (op : BinaryOp) (a b : Expr) (mark : Mark)
  | logical (op : LogicalOp) (a b : Expr)
  | conditional (test yes no : Expr)
  | assign (op : Option BinaryOp) (target : Reference) (value : Expr) (mark : Mark)
  | sequence (a b : Expr)
  | member (e : Expr) (name : Utf16) (mark : Mark)
  | index (e key : Expr) (mark : Mark)
  | call (callee : Expr) (args : List Item) (mark : Mark)
  /-- a call of what is at a place, with the object it is a property of -/
  | callAt (callee : Reference) (args : List Item) (mark : Mark)
  | new (callee : Expr) (args : List Item) (mark : Mark)

/-- What can be assigned to. -/
inductive Reference where
  | name (x : Utf16) (mark : Mark)
  | member (e : Expr) (name : Utf16) (mark : Mark)
  | index (e key : Expr) (mark : Mark)

/-- A part of a list. -/
inductive Item where
  | hole
  | one (e : Expr)
  | spread (e : Expr) (mark : Mark)

/-- A part of an object. -/
inductive Member where
  | value (key : MemberKey) (e : Expr)
  | proto (e : Expr)
  | method (key : MemberKey) (code : Code Stmt)
  | getter (key : MemberKey) (code : Code Stmt)
  | setter (key : MemberKey) (code : Code Stmt)
  /-- all listed properties of a value -/
  | spread (e : Expr) (mark : Mark)

/-- The key of a member. -/
inductive MemberKey where
  | fixed (name : Utf16)
  | computed (e : Expr) (mark : Mark)

/-- A name that is declared, with its value if it is given one. -/
inductive Declarator where
  | mk (name : Utf16) (value : Option Expr) (mark : Mark)

/-- A statement. -/
inductive Stmt where
  | empty
  | expression (e : Expr)
  | declare (kind : DeclareKind) (ds : List Declarator)
  /-- a function, and whether it becomes a variable of the code around its block when the statement
  is run -/
  | function (code : Code Stmt) (isShared : Bool)
  | block (body : List Stmt)
  | ifElse (test : Expr) (yes no : Stmt)
  | whileDo (test : Expr) (body : Stmt)
  | doWhile (body : Stmt) (test : Expr)
  | loop (start : Stmt) (test update : Expr) (body : Stmt)
  /-- over the keys of an object, or over the values of a list; with marks for the start of the walk
  and for each further step -/
  | each (overValues : Bool) (kind : Option DeclareKind) (target : Reference) (subject : Expr)
      (body : Stmt) (first next : Mark)
  | labelled (label : Utf16) (body : Stmt)
  | breakTo (label : Option Utf16)
  | continueTo (label : Option Utf16)
  | returned (e : Expr)
  | throw (e : Expr) (mark : Mark)
  | tryCatch (body : List Stmt) (param : Option Utf16) (handler : List Stmt)
  | tryFinally (body final : List Stmt)

end

instance : Inhabited Expr := ⟨.this⟩

instance : Inhabited Stmt := ⟨.empty⟩

/-- The place that an expression reads. -/
def Expr.reference? : Expr → Option Reference
  | .name x mark => some (.name x mark)
  | .member e x mark => some (.member e x mark)
  | .index e key mark => some (.index e key mark)
  | _ => none

/-- A source, ready to be run. -/
structure Source where
  file : String
  body : List Stmt
  strict : Bool

/-- Whether a function takes the name of the key it is stored under. -/
def Expr.isNameless : Expr → Bool
  | .function code | .classOf code _ _ => code.name.isEmpty
  | _ => false

/-! ## Declared names -/

mutual

/-- The names that are variables of the code around a statement: those of `var`, within blocks too,
and those of functions in blocks. -/
def Stmt.varNames : Stmt → List Utf16
  | .declare .var ds => ds.map fun (.mk x _ _) => x
  | .function code isShared => if isShared then [code.name] else []
  | .block body => varNamesOf body
  | .ifElse _ yes no => yes.varNames ++ no.varNames
  | .whileDo _ body => body.varNames
  | .doWhile body _ => body.varNames
  | .loop start _ _ body => start.varNames ++ body.varNames
  | .each _ kind target _ body _ _ =>
    (match kind, target with
      | some .var, .name x _ => [x]
      | _, _ => []) ++ body.varNames
  | .labelled _ body => body.varNames
  | .tryCatch body _ handler => varNamesOf body ++ varNamesOf handler
  | .tryFinally body final => varNamesOf body ++ varNamesOf final
  | _ => []

/-- The names that are variables of the code around these statements. -/
def varNamesOf : List Stmt → List Utf16
  | [] => []
  | s :: rest => s.varNames ++ varNamesOf rest

end

/-- The names that `let` and `const` declare in these statements themselves, and whether they can
be assigned. -/
def lexicalNames (body : List Stmt) : List (Utf16 × Bool) :=
  body.flatMap fun
    | .declare .let ds => ds.map fun (.mk x _ _) => (x, true)
    | .declare .const ds => ds.map fun (.mk x _ _) => (x, false)
    | _ => []

/-- The functions declared in these statements themselves. -/
def functionsIn (body : List Stmt) : List (Code Stmt) :=
  body.filterMap fun
    | .function code _ => some code
    | _ => none

/-- The function that a statement declares, under labels too. -/
def Stmt.function? : Stmt → Option (Code Stmt)
  | .function code _ => some code
  | .labelled _ body => body.function?
  | _ => none

/-- The names that these statements declare in their block. -/
def blockNames (body : List Stmt) : List Utf16 :=
  (lexicalNames body).map (·.1) ++ (body.filterMap Stmt.function?).map (·.name)

end Drawbridge.Script
