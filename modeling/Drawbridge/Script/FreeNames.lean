import Drawbridge.Script.Syntax

/-!
# What code uses of its surroundings

The names in a piece of code that it does not declare itself, and whether it has a `this` that is
not its own. A function keeps its surroundings only as far as it, or a function within it, uses
them.
-/

namespace Drawbridge.Script

namespace Uses

/-- Code that uses nothing. -/
def none : Uses := ⟨[], false⟩

/-- Code that uses one name. -/
def ofName (x : Utf16) : Uses := ⟨[x], false⟩

/-- What two pieces of code use together. -/
def append (a b : Uses) : Uses := ⟨a.names ++ b.names, a.this || b.this⟩

instance : Append Uses := ⟨append⟩

/-- What is left where some names are declared. -/
def without (a : Uses) (declared : List Utf16) : Uses :=
  ⟨a.names.filter fun x => !declared.contains x, a.this⟩

end Uses

mutual

/-- What an expression uses of its surroundings. -/
def Expr.uses : Expr → Uses
  | .literal _ => .none
  | .name x _ => .ofName x
  | .this => ⟨[], true⟩
  | .array items => usesOfItems items
  | .object members => usesOfMembers members
  | .function code => code.uses
  | .classOf code shared own =>
    (code.uses ++ usesOfMembers shared ++ usesOfMembers own).without
      (if code.bindsName then [code.name] else [])
  | .unary _ e _ => e.uses
  | .typeOf e => e.uses
  | .typeOfName x _ => .ofName x
  | .void e => e.uses
  | .delete target _ => target.uses
  | .update _ _ target _ => target.uses
  | .binary _ a b _ => a.uses ++ b.uses
  | .logical _ a b => a.uses ++ b.uses
  | .conditional test yes no => test.uses ++ yes.uses ++ no.uses
  | .assign _ target value _ => target.uses ++ value.uses
  | .sequence a b => a.uses ++ b.uses
  | .member e _ _ => e.uses
  | .index e key _ => e.uses ++ key.uses
  | .call callee args _ => callee.uses ++ usesOfItems args
  | .callAt callee args _ => callee.uses ++ usesOfItems args
  | .new callee args _ => callee.uses ++ usesOfItems args

/-- What a place uses that is assigned to. -/
def Reference.uses : Reference → Uses
  | .name x _ => .ofName x
  | .member e _ _ => e.uses
  | .index e key _ => e.uses ++ key.uses

/-- What the items of a list, or the arguments of a call, use. -/
def usesOfItems : List Item → Uses
  | [] => .none
  | .hole :: rest => usesOfItems rest
  | .one e :: rest => e.uses ++ usesOfItems rest
  | .spread e _ :: rest => e.uses ++ usesOfItems rest

/-- What the members of an object or of a class use. -/
def usesOfMembers : List Member → Uses
  | [] => .none
  | .value key e :: rest => key.uses ++ e.uses ++ usesOfMembers rest
  | .proto e :: rest => e.uses ++ usesOfMembers rest
  | .method key code :: rest => key.uses ++ code.uses ++ usesOfMembers rest
  | .getter key code :: rest => key.uses ++ code.uses ++ usesOfMembers rest
  | .setter key code :: rest => key.uses ++ code.uses ++ usesOfMembers rest
  | .spread e _ :: rest => e.uses ++ usesOfMembers rest

/-- What the key of a member uses, which is nothing unless it is computed. -/
def MemberKey.uses : MemberKey → Uses
  | .fixed _ => .none
  | .computed e _ => e.uses

end

/-- What declarations use, their own names included. -/
def usesOfDeclarators : List Declarator → Uses
  | [] => .none
  | .mk x value _ :: rest =>
    Uses.ofName x ++ ((value.map Expr.uses).getD .none) ++ usesOfDeclarators rest

mutual

/-- What a statement uses of its surroundings. -/
def Stmt.uses : Stmt → Uses
  | .empty => .none
  | .expression e => e.uses
  | .declare _ ds => usesOfDeclarators ds
  | .function code isShared => if isShared then Uses.ofName code.name ++ code.uses else code.uses
  | .block body => (usesOfBody body).without (blockNames body)
  | .ifElse test yes no => (test.uses ++ yes.uses ++ no.uses).without (blockNames [yes, no])
  | .whileDo test body => test.uses ++ body.uses
  | .doWhile body test => body.uses ++ test.uses
  | .loop start test update body =>
    (start.uses ++ test.uses ++ update.uses ++ body.uses).without (blockNames [start])
  | .each _ kind target subject body _ _ =>
    (target.uses ++ subject.uses ++ body.uses).without (match kind, target with
      | some .let, .name x _ | some .const, .name x _ => [x]
      | _, _ => [])
  | .labelled _ body => body.uses
  | .breakTo _ => .none
  | .continueTo _ => .none
  | .returned e => e.uses
  | .throw e _ => e.uses
  | .tryCatch body param handler =>
    (usesOfBody body).without (blockNames body)
      ++ ((usesOfBody handler).without (blockNames handler)).without param.toList
  | .tryFinally body final =>
    (usesOfBody body).without (blockNames body) ++ (usesOfBody final).without (blockNames final)

/-- What statements in a row use of their surroundings. -/
def usesOfBody : List Stmt → Uses
  | [] => .none
  | s :: rest => s.uses ++ usesOfBody rest

end

/-- A function with what it uses of its surroundings, known from its body. Only an arrow has the
`this` of its surroundings. -/
def Code.closed (code : Code Stmt) : Code Stmt :=
  let inner := usesOfBody code.body
  let declared := code.params ++ varNamesOf code.body ++ blockNames code.body
    ++ (if code.bindsName then [code.name] else [])
  let outer := inner.without declared
  { code with uses := ⟨outer.names.eraseDups, outer.this && code.form = .arrow⟩ }

end Drawbridge.Script
