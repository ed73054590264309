import Drawbridge.Script.CodeNames
import Drawbridge.Script.FreeNames
import Drawbridge.Script.Number

/-!
# Reading scripts

Recursive descent over the lexemes of a source. Every function takes a bound on the depth of what it
reads; `parse` gives one that the length of the source cannot exceed. The first lexeme that fits
nowhere is where a source is at fault, and so is a declaration that clashes with another one.

Marks are taken only at the start of an expression statement and after each of: the operator between
two operands, the parenthesis that opens a call, `new`, and `throw`. All else bears the last mark
taken before it in the order in which the parts of the function run; so the parts of a loop are read
in that order.
-/

namespace Drawbridge.Script

/-- A source that is no script, and where. -/
structure SyntaxFault where
  message : String
  mark : Mark
  deriving DecidableEq, Repr

/-- A statement that `break` can leave. -/
structure Exit where
  label : Option Utf16
  /-- whether `continue` can go on with it, and `break` without a label leave it -/
  isLoop : Bool

/-- How far a source has been read, and in which mode. -/
structure ParseState where
  lexemes : List Lexeme
  source : Array Char
  /-- the end of the last lexeme read -/
  last : Nat
  strict : Bool
  /-- whether `in` is an operator -/
  allowIn : Bool
  /-- the last mark taken in this function -/
  here : Mark
  exits : List Exit
  names : CodeNames

/-- Reads something from a source on, or refuses the source. -/
abbrev Parser := StateT ParseState (Except SyntaxFault)

namespace Parser

/-! ## Lexemes -/

/-- The next lexeme, which is not read. -/
def peek : Parser Lexeme := fun s => .ok (s.lexemes.headD default, s)

/-- The lexeme after the next. -/
def peekSecond : Parser Lexeme := fun s => .ok (s.lexemes.tail.headD default, s)

/-- The fault of a token that does not fit, at a place. -/
def faultOn {α : Type} (line column : Nat) : Except SyntaxFault α :=
  .error ⟨"unexpected token", ⟨line, column⟩⟩

/-- Refuses a lexeme that is no token, and digits that strict code may not have. -/
def sound (s : ParseState) : Except SyntaxFault ParseState :=
  let x := s.lexemes.headD default
  if x.token = .invalid then faultOn x.endLine x.mark.column
  else
    match x.octal with
    | some line => if s.strict then faultOn line x.mark.column else .ok s
    | none => .ok s

/-- Looks at the next lexeme again, the mode being another one. -/
def recheck : Parser Unit := fun s => (sound s).map ((), ·)

/-- Reads a lexeme; the last one is never read. -/
def next : Parser Lexeme := fun s =>
  match s.lexemes with
  | x :: y :: rest => (sound { s with lexemes := y :: rest, last := x.stop }).map (x, ·)
  | [x] => .ok (x, s)
  | [] => .ok (default, s)

/-- Reads a lexeme, of which `a` is all that counts. -/
def take {α : Type} (a : α) : Parser α := do
  discard next
  return a

/-- The next lexeme does not fit. The fault is on the line where it ends. -/
def refuse {α : Type} : Parser α := do
  let x ← peek
  fun _ => faultOn x.endLine x.mark.column

/-- Whether a sign comes next. -/
def isSign (s : String) : Parser Bool := do return (← peek).token = .sign s

/-- Whether a word comes next, not written with escapes. -/
def isWord (w : String) : Parser Bool := do return (← peek).token = .word w false

/-- Reads a sign if it comes next. -/
def eat (s : String) : Parser Bool := do
  if ← isSign s then take true else return false

/-- Reads a word if it comes next. -/
def eatWord (w : String) : Parser Bool := do
  if ← isWord w then take true else return false

/-- Reads a sign, which has to come next. -/
def expect (s : String) : Parser Unit := do
  if !(← eat s) then refuse

/-- The end of a statement: a semicolon, or a place where one may be left out. -/
def endStatement : Parser Unit := do
  if ← eat ";" then return
  let x ← peek
  if x.fresh || x.token = .finish || x.token = .sign "\x7d" then return
  refuse

/-- The last mark taken. -/
def here : Parser Mark := do return (← get).here

/-- Takes the mark of the next lexeme. -/
def takeMark : Parser Unit := do
  let x ← peek
  modify fun s => { s with here := x.mark }

/-- Reads again from an earlier place, without going back there. -/
def rereading {α : Type} (lexemes : List Lexeme) (p : Parser α) : Parser α := do
  let s ← get
  set { s with lexemes }
  let a ← p
  modify fun t => { t with lexemes := s.lexemes, last := s.last }
  return a

/-! ## Names -/

/-- The words that are no names. -/
def reserved : List String :=
  ["break", "case", "catch", "class", "const", "continue", "debugger", "default", "delete", "do",
    "else", "enum", "export", "extends", "false", "finally", "for", "function", "if", "import",
    "in", "instanceof", "new", "null", "return", "super", "switch", "this", "throw", "true", "try",
    "typeof", "var", "void", "while", "with"]

/-- The further words that are no names in strict code. -/
def reservedStrict : List String :=
  ["implements", "interface", "let", "package", "private", "protected", "public", "static", "yield"]

/-- Whether a word may be a name. -/
def isName (strict : Bool) (w : String) : Bool :=
  !reserved.contains w && !(strict && reservedStrict.contains w)

/-- Whether strict code may not give a name to anything. -/
def isRestricted (x : Utf16) : Bool :=
  x = Utf16.ofString "eval" || x = Utf16.ofString "arguments"

/-- Reads a name. -/
def name : Parser Utf16 := do
  let strict := (← get).strict
  match (← peek).token with
  | .word w _ => if isName strict w then take (.ofString w) else refuse
  | _ => refuse

/-- Changes the names declared; the fault of one that clashes is at the next lexeme. -/
def declaring (change : CodeNames → Option CodeNames) : Parser Unit := do
  match change (← get).names with
  | some names => modify fun s => { s with names }
  | none => refuse

/-- Declares a name, which is refused where it clashes or where strict code may not give it. -/
def declare (kind : DeclareKind) (x : Utf16) : Parser Unit := do
  let strict := (← get).strict
  if strict && isRestricted x then refuse
  else
    match kind with
    | .var => declaring (·.addVar x)
    | .let | .const => declaring (·.addBinding strict x .binding)

/-- Reads with a block of its own. -/
def inBlock {α : Type} (p : Parser α) : Parser α := do
  modify fun s => { s with names := s.names.openBlock }
  let a ← p
  modify fun s => { s with names := s.names.closeBlock }
  return a

/-- Reads what `break` can leave. -/
def inExit {α : Type} (exit : Exit) (p : Parser α) : Parser α := do
  modify fun s => { s with exits := exit :: s.exits }
  let a ← p
  modify fun s => { s with exits := s.exits.tail }
  return a

/-! ## Operators -/

/-- How tightly an operator between two operands binds, and what it does. -/
def infixOf (allowIn : Bool) : Token → Option (Nat × BinaryOp)
  | .sign "|" => some (1, .bitOr)
  | .sign "^" => some (2, .bitXor)
  | .sign "&" => some (3, .bitAnd)
  | .sign "==" => some (4, .equal)
  | .sign "!=" => some (4, .notEqual)
  | .sign "===" => some (4, .same)
  | .sign "!==" => some (4, .notSame)
  | .sign "<" => some (5, .less)
  | .sign ">" => some (5, .greater)
  | .sign "<=" => some (5, .lessEq)
  | .sign ">=" => some (5, .greaterEq)
  | .word "instanceof" false => some (5, .instanceOf)
  | .word "in" false => if allowIn then some (5, .isIn) else none
  | .sign "<<" => some (6, .shiftLeft)
  | .sign ">>" => some (6, .shiftRight)
  | .sign ">>>" => some (6, .shiftRightZero)
  | .sign "+" => some (7, .add)
  | .sign "-" => some (7, .sub)
  | .sign "*" => some (8, .mul)
  | .sign "/" => some (8, .div)
  | .sign "%" => some (8, .rem)
  | _ => none

/-- The operator that an assignment applies first. -/
def assignmentOf : Token → Option (Option BinaryOp)
  | .sign "=" => some none
  | .sign "+=" => some (some .add)
  | .sign "-=" => some (some .sub)
  | .sign "*=" => some (some .mul)
  | .sign "/=" => some (some .div)
  | .sign "%=" => some (some .rem)
  | .sign "**=" => some (some .exp)
  | .sign "<<=" => some (some .shiftLeft)
  | .sign ">>=" => some (some .shiftRight)
  | .sign ">>>=" => some (some .shiftRightZero)
  | .sign "&=" => some (some .bitAnd)
  | .sign "|=" => some (some .bitOr)
  | .sign "^=" => some (some .bitXor)
  | _ => none

/-- Whether a power may follow an operand: not after a sign, which would be ambiguous. -/
inductive PowerUse where
  | allowed
  | refused
  | ignored
  deriving DecidableEq

/-- A function without a name takes the one it is stored under. -/
def named (x : Utf16) : Expr → Expr
  | .function code =>
    if code.name.isEmpty then .function { code with name := x } else .function code
  | .classOf code shared own =>
    if code.name.isEmpty then .classOf { code with name := x } shared own
    else .classOf code shared own
  | e => e

/-- The place that is assigned to; strict code does not assign to restricted names. -/
def placeOf (e : Expr) : Parser Reference := do
  match e.reference? with
  | some (.name x mark) =>
    if (← get).strict && isRestricted x then refuse else return .name x mark
  | some place => return place
  | none => refuse

/-- Whether the parenthesis that opens here is a list of parameters before an arrow. -/
def opensArrow : Nat → List Lexeme → Bool
  | _, [] => false
  | depth, x :: rest =>
    if x.token = .sign "(" then opensArrow (depth + 1) rest
    else if x.token = .sign ")" then
      if depth = 1 then
        match rest with
        | y :: _ => y.token = .sign "=>" && !y.fresh
        | [] => false
      else opensArrow (depth - 1) rest
    else opensArrow depth rest

/-- Whether there is a semicolon in the brackets that open here, not within further ones. -/
def hasSemicolon : Nat → List Lexeme → Bool
  | _, [] => false
  | depth, x :: rest =>
    match x.token with
    | .sign "(" | .sign "[" | .sign "\x7b" => hasSemicolon (depth + 1) rest
    | .sign ")" | .sign "]" | .sign "\x7d" => 1 < depth && hasSemicolon (depth - 1) rest
    | .sign ";" => depth = 1 || hasSemicolon depth rest
    | _ => hasSemicolon depth rest

/-! ## Strict mode -/

/-- Whether a string that a body begins with is a statement of its own: a lexeme on a further line
ends it only if it cannot go on with the string. -/
def endsDirective : List Lexeme → Bool
  | x :: _ =>
    match x.token with
    | .finish | .sign ";" | .sign "\x7d" => true
    | .word w _ => x.fresh && w ≠ "in" && w ≠ "instanceof"
    | .literal _ | .sign "++" | .sign "--" => x.fresh
    | _ => false
  | [] => true

/-- Whether a source or a body asks for strict mode in the strings it begins with. -/
def asksStrict (afterString : Bool) : List Lexeme → Bool
  | [] => false
  | x :: rest =>
    match x.token with
    | .literal (.text s) =>
      if !endsDirective rest then false
      else (s = Utf16.ofString "use strict" && x.stop = x.start + 12) || asksStrict true rest
    | .sign ";" => afterString && asksStrict false rest
    | _ => false

/-- Reads with `in` as an operator, or without. -/
def withIn {α : Type} (allowIn : Bool) (p : Parser α) : Parser α := do
  let outer ← get
  set { outer with allowIn }
  let a ← p
  modify fun s => { s with allowIn := outer.allowIn }
  return a

/-- The text of the source from an offset to the end of the last lexeme read. -/
def textFrom (start : Nat) : Parser Utf16 := do
  let s ← get
  return .ofList (s.source.extract start s.last).toList

/-! ## Functions -/

/-- What a function is read as. -/
inductive Role where
  | plain
  | method
  | getter
  | setter
  | construction
  | arrow
  deriving DecidableEq

/-- The form of a function that is read so. -/
def Role.form : Role → Form
  | plain => .ordinary
  | method | getter | setter => .method
  | construction => .classBody
  | arrow => .arrow

/-- Whether a function may have so many parameters. -/
def Role.accepts (count : Nat) : Role → Bool
  | getter => count = 0
  | setter => count = 1
  | _ => true

/-- Whether a name comes twice. -/
def hasDuplicates : List Utf16 → Bool
  | [] => false
  | x :: rest => rest.contains x || hasDuplicates rest

/-- Refuses names that strict code may not give, and parameters of one name where they matter. -/
def checkNames (role : Role) (x : Utf16) (params : List Utf16) : Parser Unit := do
  let strict := (← get).strict
  if strict && (isRestricted x || params.any isRestricted) then refuse
  else if (strict || role = .arrow || role = .method) && hasDuplicates params then refuse
  else return

/-- Reads the inside of a function, which begins at a mark. -/
def inFunction {α : Type} (mark : Mark) (params : List Utf16) (p : Parser α) :
    Parser (α × Bool) := do
  let outer ← get
  set { outer with allowIn := true, here := mark, exits := [], names := .start false params }
  let a ← p
  let inner ← get
  set { inner with
    strict := outer.strict, allowIn := outer.allowIn, here := outer.here
    exits := outer.exits, names := outer.names }
  return (a, inner.strict)

/-! ## Keys -/

/-- The key that a token is in an object. -/
def keyOf : Token → Option Utf16
  | .word w _ => some (.ofString w)
  | .literal (.text s) => some s
  | .literal (.int n) => some (.ofString (toString n.toInt))
  | .literal (.float x) => some (textOfNumber x)
  | .literal (.bigInt n) => some (.ofString (toString n))
  | _ => none

/-- Whether a sign after `get`, `set` or `static` shows that the word is a key itself. -/
def endsKey (t : Token) : Bool :=
  t = .sign "," || t = .sign ":" || t = .sign "(" || t = .sign "\x7d" || t = .sign "="
    || t = .sign ";"

/-! ## Statements -/

/-- Which declarations a statement may be. -/
structure Allowed where
  functions : Bool
  /-- functions under a label -/
  labelled : Bool
  /-- `let`, `const` and classes -/
  bindings : Bool

namespace Allowed

/-- Any declaration. -/
def all : Allowed := ⟨true, true, true⟩

/-- Functions, without a label. -/
def functionsOnly : Allowed := ⟨true, false, false⟩

/-- No declaration. -/
def nothing : Allowed := ⟨false, false, false⟩

end Allowed

/-- The kind of declaration that begins here. Outside strict mode `let` may be a name; on a line of
its own it is one unless bindings are allowed here. -/
def declareKind? (bindings : Bool) : Parser (Option DeclareKind) := do
  let x ← peek
  match x.token with
  | .word "var" false => return some .var
  | .word "const" false => return some .const
  | .word "let" false =>
    if (← get).strict then return some .let
    else
      let y ← peekSecond
      match y.token with
      | .sign "[" => return some .let
      | .sign "\x7b" => return if bindings || x.mark.line = y.mark.line then some .let else none
      | .word w _ =>
        return if isName false w && (bindings || x.mark.line = y.mark.line) then some .let else none
      | _ => return none
  | _ => return none

/-- A label after `break` or `continue`, of a statement around that can be left, or gone on with. -/
def jumpLabel (goesOn : Bool) : Parser (Option Utf16) := do
  let s ← get
  let x ← peek
  let label : Option Utf16 := match x.token with
    | .word w _ => if !x.fresh && isName s.strict w then some (.ofString w) else none
    | _ => none
  let fits (e : Exit) : Bool := match label with
    | some l => e.label = some l && (e.isLoop || !goesOn)
    | none => e.isLoop
  if !s.exits.any fits then refuse
  else
    if label.isSome then discard next
    return label

mutual

/-- An expression, with commas between its parts. -/
def expression : Nat → Parser Expr
  | 0 => refuse
  | n + 1 => do
    let e ← assignment n
    sequenceRest n e

/-- What follows a part of an expression behind commas. -/
def sequenceRest : Nat → Expr → Parser Expr
  | 0, _ => refuse
  | n + 1, e => do
    if ← eat "," then
      let f ← assignment n
      sequenceRest n (.sequence e f)
    else return e

/-- An expression without commas: an assignment, an arrow function, or neither. -/
def assignment : Nat → Parser Expr
  | 0 => refuse
  | n + 1 => do
    let s ← get
    let first ← peek
    let second ← peekSecond
    let single := match first.token with
      | .word w _ => isName s.strict w && second.token = Token.sign "=>" && !second.fresh
      | _ => false
    if single then
      let x ← name
      arrow n first [x]
    else if first.token = .sign "(" && opensArrow 0 s.lexemes then
      discard next
      let params ← parameters n
      discard next
      arrow n first params
    else
      let target ← conditional n
      match assignmentOf (← peek).token with
      | none => return target
      | some op =>
        discard next
        let place ← placeOf target
        let value ← assignment n
        let value := match op, place, first.token with
          | none, .name x _, .word _ _ => named x value
          | _, _, _ => value
        return .assign op place value (← here)

/-- The names of parameters up to the closing parenthesis, which is not read. -/
def parameters : Nat → Parser (List Utf16)
  | 0 => refuse
  | n + 1 => do
    if ← isSign ")" then return []
    else
      let x ← name
      if ← isSign ")" then return [x]
      else
        expect ","
        let rest ← parameters n
        return x :: rest

/-- An arrow function after its parameters. -/
def arrow : Nat → Lexeme → List Utf16 → Parser Expr
  | 0, _, _ => refuse
  | n + 1, first, params => do
    let finish (body : List Stmt) (strict : Bool) : Parser Expr := do
      return .function (Code.closed ⟨.ofString "", false, params, body, .arrow, strict,
        ← textFrom first.start, first.mark, .none⟩)
    expect "=>"
    if ← isSign "\x7b" then
      let (body, strict) ← inFunction first.mark params
        (functionBody n .arrow (.ofString "") params)
      finish body strict
    else
      let (e, strict) ← inFunction first.mark params do
        checkNames .arrow (.ofString "") params
        assignment n
      finish [.returned e] strict

/-- A function from its opening brace on. -/
def functionBody : Nat → Role → Utf16 → List Utf16 → Parser (List Stmt)
  | 0, _, _, _ => refuse
  | n + 1, role, x, params => do
    expect "\x7b"
    let s ← get
    if asksStrict false s.lexemes then
      set { s with strict := true }
      recheck
    checkNames role x params
    let body ← sourceElements n
    expect "\x7d"
    return body

/-- A function from its parameters on. Its text begins at an offset. -/
def functionRest : Nat → Nat → Mark → Utf16 → Bool → Role → Parser (Code Stmt)
  | 0, _, _, _, _, _ => refuse
  | n + 1, start, mark, x, bindsName, role => do
    expect "("
    let params ← parameters n
    if !role.accepts params.length then refuse
    else
      discard next
      let (body, strict) ← inFunction mark params (functionBody n role x params)
      return Code.closed ⟨x, bindsName, params, body, role.form, strict, ← textFrom start, mark,
        .none⟩

/-- A condition with its two branches, or an expression without a question mark. -/
def conditional : Nat → Parser Expr
  | 0 => refuse
  | n + 1 => do
    let test ← coalescing n
    if ← eat "?" then
      let yes ← withIn true (assignment n)
      expect ":"
      let no ← assignment n
      return .conditional test yes no
    else return test

/-- Operands of `??`, which does not mix with `&&` and `||`. -/
def coalescing : Nat → Parser Expr
  | 0 => refuse
  | n + 1 => do
    let a ← disjunction n
    coalescingRest n a

/-- What follows an operand behind `??`. -/
def coalescingRest : Nat → Expr → Parser Expr
  | 0, _ => refuse
  | n + 1, a => do
    if ← eat "??" then
      let b ← operands n 0
      coalescingRest n (.logical .coalesce a b)
    else return a

/-- Operands of `||`. -/
def disjunction : Nat → Parser Expr
  | 0 => refuse
  | n + 1 => do
    let a ← conjunction n
    disjunctionRest n a

/-- What follows an operand behind `||`. -/
def disjunctionRest : Nat → Expr → Parser Expr
  | 0, _ => refuse
  | n + 1, a => do
    if ← eat "||" then
      let b ← conjunction n
      if ← isSign "??" then refuse else disjunctionRest n (.logical .or a b)
    else return a

/-- Operands of `&&`. -/
def conjunction : Nat → Parser Expr
  | 0 => refuse
  | n + 1 => do
    let a ← operands n 0
    conjunctionRest n a

/-- What follows an operand behind `&&`. -/
def conjunctionRest : Nat → Expr → Parser Expr
  | 0, _ => refuse
  | n + 1, a => do
    if ← eat "&&" then
      let b ← operands n 0
      if ← isSign "??" then refuse else conjunctionRest n (.logical .and a b)
    else return a

/-- Operands with operators between them that bind tighter than `least`. -/
def operands : Nat → Nat → Parser Expr
  | 0, _ => refuse
  | n + 1, least => do
    let a ← unary n .allowed
    operandsRest n least a

/-- What follows an operand behind operators that bind tighter than `least`. -/
def operandsRest : Nat → Nat → Expr → Parser Expr
  | 0, _, _ => refuse
  | n + 1, least, a => do
    match infixOf (← get).allowIn (← peek).token with
    | none => return a
    | some (strength, op) =>
      if strength ≤ least then return a
      else
        discard next
        takeMark
        let b ← operands n strength
        operandsRest n least (.binary op a b (← here))

/-- An operand with the operators in front of it, and the step or the power behind it. -/
def unary : Nat → PowerUse → Parser Expr
  | 0, _ => refuse
  | n + 1, power => do
    let x ← peek
    let prefixed (make : Expr → Mark → Expr) : Parser Expr := do
      discard next
      let e ← unary n .refused
      return make e (← here)
    match x.token with
    | .sign "-" => prefixed (.unary .minus)
    | .sign "+" => prefixed (.unary .plus)
    | .sign "!" => prefixed (.unary .not)
    | .sign "~" => prefixed (.unary .bitNot)
    | .word "void" false => prefixed fun e _ => .void e
    | .word "typeof" false => prefixed fun e _ => match e with
      | .name y mark => .typeOfName y mark
      | e => .typeOf e
    | .word "delete" false =>
      discard next
      let e ← unary n .refused
      match e.reference? with
      | some (.name y mark) =>
        if (← get).strict then refuse else return .delete (.name y mark) (← here)
      | some place => return .delete place (← here)
      | none => return .sequence e (.literal (.bool true))
    | .sign "++" => do
      let e ← updated n 1
      powerRest n power e
    | .sign "--" => do
      let e ← updated n (-1)
      powerRest n power e
    | _ => do
      let e ← postfixed n true
      let y ← peek
      let step (delta : Int) : Parser Expr := do
        let place ← placeOf e
        discard next
        return .update false delta place (← here)
      let e ← if y.fresh then pure e
        else if y.token = .sign "++" then step 1
        else if y.token = .sign "--" then step (-1)
        else pure e
      powerRest n power e

/-- A step up or down before its operand. -/
def updated : Nat → Int → Parser Expr
  | 0, _ => refuse
  | n + 1, delta => do
    discard next
    let e ← unary n .ignored
    let place ← placeOf e
    return .update true delta place (← here)

/-- A power, if one follows. -/
def powerRest : Nat → PowerUse → Expr → Parser Expr
  | 0, _, _ => refuse
  | n + 1, power, a => do
    if power ≠ .ignored && (← isSign "**") then
      if power = .refused then refuse
      else
        discard next
        let b ← unary n .allowed
        return .binary .exp a b (← here)
    else return a

/-- Calls, if they are allowed, and members. -/
def postfixed : Nat → Bool → Parser Expr
  | 0, _ => refuse
  | n + 1, calls => do
    if ← eatWord "new" then
      takeMark
      let callee ← postfixed n false
      if ← eat "(" then
        takeMark
        let args ← items n ")"
        callRest n calls (.new callee args (← here))
      else callRest n calls (.new callee [] (← here))
    else
      let e ← primary n
      callRest n calls e

/-- What follows a value: members, and calls if they are allowed. -/
def callRest : Nat → Bool → Expr → Parser Expr
  | 0, _, _ => refuse
  | n + 1, calls, e => do
    match (← peek).token with
    | .sign "." =>
      discard next
      match (← peek).token with
      | .word w _ =>
        discard next
        callRest n calls (.member e (.ofString w) (← here))
      | _ => refuse
    | .sign "[" =>
      discard next
      let key ← withIn true (expression n)
      expect "]"
      callRest n calls (.index e key (← here))
    | .sign "(" =>
      if !calls then return e
      else
        discard next
        takeMark
        let args ← items n ")"
        let mark ← here
        callRest n calls (match e with
          | .member o x place => .callAt (.member o x place) args mark
          | .index o key place => .callAt (.index o key place) args mark
          | _ => .call e args mark)
    | _ => return e

/-- The parts of a list up to its closing sign. Only a list of values has holes. -/
def items : Nat → String → Parser (List Item)
  | 0, _ => refuse
  | n + 1, close => do
    if ← eat close then return []
    else
      let isHole ← if close = "]" then eat "," else pure false
      if isHole then
        let rest ← items n close
        return .hole :: rest
      else
        let item ← if ← eat "..." then do
            let e ← withIn true (assignment n)
            pure (Item.spread e (← here))
          else do
            let e ← withIn true (assignment n)
            pure (Item.one e)
        if ← eat close then return [item]
        else
          expect ","
          let rest ← items n close
          return item :: rest

/-- An expression that no operator is part of on its outside. -/
def primary : Nat → Parser Expr
  | 0 => refuse
  | n + 1 => do
    let x ← peek
    match x.token with
    | .literal v => take (.literal v)
    | .word "this" false => take .this
    | .word "null" false => take (.literal .null)
    | .word "true" false => take (.literal (.bool true))
    | .word "false" false => take (.literal (.bool false))
    | .word "function" false =>
      discard next
      if ← isSign "(" then
        return .function (← functionRest n x.start x.mark (.ofString "") false .plain)
      else
        let f ← name
        return .function (← functionRest n x.start x.mark f true .plain)
    | .word "class" false => classFrom n
    | .word _ _ => do
      let y ← name
      return .name y (← here)
    | .sign "(" =>
      discard next
      let e ← withIn true (expression n)
      expect ")"
      return e
    | .sign "[" =>
      discard next
      return .array (← items n "]")
    | .sign "\x7b" =>
      discard next
      return .object (← members n false)
    | _ => refuse

/-- The members of an object up to its closing brace. Only one may give its prototype. -/
def members : Nat → Bool → Parser (List Member)
  | 0, _ => refuse
  | n + 1, hasProto => do
    if ← eat "\x7d" then return []
    else
      let m ← member n
      let isProto : Bool := match m with
        | .proto _ => true
        | _ => false
      if isProto && hasProto then refuse
      else if ← eat "\x7d" then return [m]
      else
        expect ","
        let rest ← members n (hasProto || isProto)
        return m :: rest

/-- The key of a member, in brackets if it is to be computed. -/
def memberKey : Nat → Parser MemberKey
  | 0 => refuse
  | n + 1 => do
    if ← eat "[" then
      let e ← withIn true (expression n)
      expect "]"
      return .computed e (← here)
    else
      match keyOf (← peek).token with
      | some key => take (.fixed key)
      | none => refuse

/-- A member of an object. -/
def member : Nat → Parser Member
  | 0 => refuse
  | n + 1 => do
    let x ← peek
    let y ← peekSecond
    if ← eat "..." then
      let e ← withIn true (assignment n)
      return .spread e (← here)
    else if x.token = .word "get" false && !endsKey y.token then
      discard next
      let key ← memberKey n
      return .getter key (← functionRest n x.start x.mark (.ofString "") false .getter)
    else if x.token = .word "set" false && !endsKey y.token then
      discard next
      let key ← memberKey n
      return .setter key (← functionRest n x.start x.mark (.ofString "") false .setter)
    else
      let strict := (← get).strict
      let isShort := match x.token with
        | .word w _ => isName strict w && y.token ≠ Token.sign ":" && y.token ≠ Token.sign "("
        | _ => false
      if isShort then
        let v ← name
        return .value (.fixed v) (.name v (← here))
      else
        let key ← memberKey n
        if ← isSign "(" then
          return .method key (← functionRest n x.start x.mark (.ofString "") false .method)
        else
          expect ":"
          let e ← withIn true (assignment n)
          match key with
          | .fixed k =>
            if k = Utf16.ofString "__proto__" then return .proto e
            else return .value key (named k e)
          | .computed _ _ => return .value key e

/-- A class with all that it is made of; classes are strict. -/
def classFrom : Nat → Parser Expr
  | 0 => refuse
  | n + 1 => do
    let first ← peek
    let outer ← get
    set { outer with strict := true }
    discard next
    let x ← match (← peek).token with
      | .word _ _ => name
      | _ => pure (Utf16.ofString "")
    expect "\x7b"
    let (code?, shared, own) ← classMembers n
    modify fun s => { s with strict := outer.strict }
    let text ← textFrom first.start
    let code : Code Stmt := match code? with
      | some code => { code with name := x, text }
      | none => ⟨x, false, [], [], .classBody, true, text, first.mark, .none⟩
    return .classOf { code with bindsName := !x.isEmpty } shared own

/-- The members of a class up to its closing brace: its constructor, if it is written, the methods
that instances share, and those of the class itself. -/
def classMembers : Nat → Parser (Option (Code Stmt) × List Member × List Member)
  | 0 => refuse
  | n + 1 => do
    if ← eat "\x7d" then return (none, [], [])
    else if ← eat ";" then classMembers n
    else
      let second ← peekSecond
      let isOwn ← if endsKey second.token then pure false else eatWord "static"
      let m ← classMember n isOwn
      let (code?, shared, own) ← classMembers n
      if isOwn then return (code?, shared, m :: own)
      else
        match m with
        | .method (.fixed k) code =>
          if k = Utf16.ofString "constructor" then
            if code?.isSome then refuse else return (some code, shared, own)
          else return (code?, m :: shared, own)
        | _ => return (code?, m :: shared, own)

/-- A method or an accessor of a class. -/
def classMember : Nat → Bool → Parser Member
  | 0, _ => refuse
  | n + 1, isOwn => do
    let x ← peek
    let y ← peekSecond
    let misnamed (key : MemberKey) (isAccessor : Bool) : Bool := match key with
      | .fixed k =>
        (isOwn && k = Utf16.ofString "prototype")
          || (!isOwn && isAccessor && k = Utf16.ofString "constructor")
      | .computed _ _ => false
    let rest (role : Role) : Parser (Code Stmt) := do
      let opening ← peek
      functionRest n x.start opening.mark (.ofString "") false role
    if x.token = .word "get" false && !endsKey y.token then
      discard next
      let key ← memberKey n
      if misnamed key true then refuse else return .getter key (← rest .getter)
    else if x.token = .word "set" false && !endsKey y.token then
      discard next
      let key ← memberKey n
      if misnamed key true then refuse else return .setter key (← rest .setter)
    else
      let key ← memberKey n
      let isConstructor : Bool := match key with
        | .fixed k => !isOwn && k = Utf16.ofString "constructor"
        | .computed _ _ => false
      if misnamed key false then refuse
      else return .method key (← rest (if isConstructor then .construction else .method))

/-- Statements up to a closing brace or the end, functions among them being declared in the code
itself. -/
def sourceElements : Nat → Parser (List Stmt)
  | 0 => refuse
  | n + 1 => do
    let x ← peek
    if x.token = .finish || x.token = .sign "\x7d" then return []
    else
      let s ← if x.token = .word "function" false then do
          discard next
          let f ← name
          let code ← functionRest n x.start x.mark f false .plain
          declaring fun c => if c.isSource then some (c.noteVar f) else c.addVar f
          pure (Stmt.function code false)
        else statement n .all
      let rest ← sourceElements n
      return s :: rest

/-- Statements of a block up to its closing brace. -/
def statements : Nat → Parser (List Stmt)
  | 0 => refuse
  | n + 1 => do
    if ← isSign "\x7d" then return []
    else
      let s ← statement n .all
      let rest ← statements n
      return s :: rest

/-- A block with its braces. -/
def block : Nat → Parser (List Stmt)
  | 0 => refuse
  | n + 1 => do
    expect "\x7b"
    let body ← inBlock (statements n)
    expect "\x7d"
    return body

/-- The declarations after `var`, `let` or `const`. -/
def declarators : Nat → DeclareKind → Parser (List Declarator)
  | 0, _ => refuse
  | n + 1, kind => do
    if kind ≠ .var && (← isWord "let") then refuse
    else
      let x ← name
      declare kind x
      let d ← if ← eat "=" then do
          let e ← assignment n
          pure (Declarator.mk x (some (named x e)) (← here))
        else if kind = .const then refuse
        else pure (Declarator.mk x none (← here))
      if ← eat "," then
        let rest ← declarators n kind
        return d :: rest
      else return [d]

/-- A condition in parentheses. -/
def condition : Nat → Parser Expr
  | 0 => refuse
  | n + 1 => do
    expect "("
    let e ← withIn true (expression n)
    expect ")"
    return e

/-- A loop, under a label perhaps. -/
def loop : Nat → Option Utf16 → Parser Stmt
  | 0, _ => refuse
  | n + 1, label => do
    let exit : Exit := ⟨label, true⟩
    let x ← next
    match x.token with
    | .word "while" _ => inExit exit do
      let test ← condition n
      return .whileDo test (← statement n .nothing)
    | .word "do" _ => do
      let (body, test) ← inExit exit do
        let body ← statement n .nothing
        if !(← eatWord "while") then refuse
        else
          let test ← condition n
          pure (body, test)
      discard (eat ";")
      return .doWhile body test
    | _ => inBlock do
      if hasSemicolon 0 (← get).lexemes then stepLoop n exit else eachLoop n exit

/-- A loop with a start, a test and a step, after `for`. The step runs after the body; so it is read
for its length first. -/
def stepLoop : Nat → Exit → Parser Stmt
  | 0, _ => refuse
  | n + 1, exit => do
    expect "("
    let start ← if ← isSign ";" then pure Stmt.empty
      else do
        match ← declareKind? true with
        | some kind => do
          discard next
          let ds ← withIn false (declarators n kind)
          pure (Stmt.declare kind ds)
        | none => do
          let e ← withIn false (expression n)
          pure (Stmt.expression e)
    expect ";"
    inExit exit do
      let isTested := !(← isSign ";")
      let test ← if isTested then withIn true (expression n) else pure (.literal (.bool true))
      expect ";"
      if ← eat ")" then return .loop start test (.literal .undefined) (← statement n .nothing)
      else
        let before ← get
        let step ← withIn true (expression n)
        expect ")"
        if !isTested then return .loop start test step (← statement n .nothing)
        else
          modify fun s => { s with here := before.here }
          let body ← statement n .nothing
          let step ← rereading before.lexemes (withIn true (expression n))
          return .loop start test step body

/-- A loop over keys or values, after `for`. What it goes over is found first, then each turn begins
with the place that takes the key or value. -/
def eachLoop : Nat → Exit → Parser Stmt
  | 0, _ => refuse
  | n + 1, exit => do
    expect "("
    inExit exit do
      let before ← get
      let kind ← declareKind? true
      let target ← match kind with
        | some kind => do
          discard next
          let x ← name
          declare kind x
          pure (Reference.name x before.here)
        | none => do
          let e ← postfixed n true
          placeOf e
      let overValues := (← peek).token = .word "of" false
      if !overValues && !(← isWord "in") then refuse
      else
        discard next
        modify fun s => { s with here := before.here }
        let subject ← if overValues then withIn true (assignment n) else withIn true (expression n)
        let first ← here
        expect ")"
        let target ← match target with
          | .name x _ => pure (Reference.name x first)
          | _ => rereading before.lexemes do
            let e ← postfixed n true
            placeOf e
        let body ← statement n .nothing
        return .each overValues kind target subject body first (← here)

/-- A statement, or a declaration where it is allowed. -/
def statement : Nat → Allowed → Parser Stmt
  | 0, _ => refuse
  | n + 1, allowed => do
    let s ← get
    let x ← peek
    let y ← peekSecond
    let label? : Option Utf16 := match x.token with
      | .word w _ =>
        if y.token = Token.sign ":" && isName s.strict w then some (.ofString w) else none
      | _ => none
    match label? with
    | some label =>
      if s.exits.any fun e => e.label = some label then refuse
      else
        discard next
        discard next
        if (← isWord "for") || (← isWord "while") || (← isWord "do") then
          return .labelled label (← loop n (some label))
        else
          let inner : Allowed :=
            if !s.strict && allowed.labelled then ⟨true, true, false⟩ else .nothing
          return .labelled label (← inExit ⟨some label, false⟩ (statement n inner))
    | none =>
    match ← declareKind? allowed.bindings with
    | some kind =>
      if kind ≠ .var && !allowed.bindings then refuse
      else
        discard next
        let ds ← declarators n kind
        endStatement
        return .declare kind ds
    | none =>
    match x.token with
    | .sign ";" => take .empty
    | .sign "\x7b" => return .block (← block n)
    | .word "function" false =>
      if !allowed.functions then refuse
      else
        discard next
        let f ← name
        let isShared := (← get).names.sharesFunction s.strict f
        declaring (·.addFunction s.strict f)
        let code ← functionRest n x.start x.mark f false .plain
        if isShared then modify fun s => { s with names := s.names.noteShared f }
        return .function code isShared
    | .word "class" false =>
      if !allowed.bindings then refuse
      else
        let c ← classFrom n
        match c with
        | .classOf code _ _ =>
          if code.name.isEmpty then refuse
          else
            declare .let code.name
            return .declare .let [.mk code.name (some c) (← here)]
        | _ => refuse
    | .word "if" false =>
      discard next
      inBlock do
        let branches : Allowed := if s.strict then .nothing else .functionsOnly
        let test ← condition n
        let yes ← statement n branches
        let no ← if ← eatWord "else" then statement n branches else pure .empty
        return .ifElse test yes no
    | .word "while" false | .word "do" false | .word "for" false => loop n none
    | .word "return" false =>
      if s.names.isSource then refuse
      else
        discard next
        let y ← peek
        let bare := y.fresh || y.token = .finish || y.token = .sign ";" || y.token = .sign "\x7d"
        let e ← if bare then pure (.literal .undefined) else expression n
        endStatement
        return .returned e
    | .word "throw" false =>
      discard next
      if (← peek).fresh then refuse
      else
        takeMark
        let e ← expression n
        let mark ← here
        endStatement
        return .throw e mark
    | .word "break" false =>
      discard next
      let label ← jumpLabel false
      endStatement
      return .breakTo label
    | .word "continue" false =>
      discard next
      let label ← jumpLabel true
      endStatement
      return .continueTo label
    | .word "try" false => discard next; tryRest n
    | .word "debugger" false =>
      discard next
      endStatement
      return .empty
    | _ =>
      takeMark
      let e ← expression n
      endStatement
      return .expression e

/-- The blocks after `try`. -/
def tryRest : Nat → Parser Stmt
  | 0 => refuse
  | n + 1 => do
    let body ← block n
    let guarded ← if ← eatWord "catch" then
        inBlock do
          let param ← if ← isSign "\x7b" then pure none
            else do
              expect "("
              let x ← name
              if (← get).strict && isRestricted x then refuse
              else
                modify fun s => { s with names := s.names.declare x .caught }
                expect ")"
                pure (some x)
          let handler ← inBlock (block n)
          pure (some (Stmt.tryCatch body param handler))
      else pure none
    if ← eatWord "finally" then
      let final ← block n
      match guarded with
      | some s => return .tryFinally [s] final
      | none => return .tryFinally body final
    else
      match guarded with
      | some s => return s
      | none => refuse

end

end Parser

/-- The script that a text writes, in strict mode from the start or where it asks for it. -/
def parse (strict : Bool) (file : String) (text : List Char) : Except SyntaxFault Source := do
  let lexemes := scan text
  let start : ParseState :=
    { lexemes, source := text.toArray, last := 0, strict, allowIn := true, here := ⟨1, 1⟩
      exits := [], names := .start true [] }
  let program : Parser (List Stmt × Bool) := do
    Parser.recheck
    let s ← get
    if Parser.asksStrict false lexemes then
      set { s with strict := true }
      Parser.recheck
    let body ← Parser.sourceElements (32 * lexemes.length + 32)
    if (← Parser.peek).token = .finish then return (body, (← get).strict) else Parser.refuse
  let ((body, strict), _) ← program.run start
  return ⟨file, body, strict⟩

end Drawbridge.Script
