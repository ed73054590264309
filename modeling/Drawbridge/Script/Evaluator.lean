import Drawbridge.Script.Operator

/-!
# Running code

Expressions and statements run by recursion on what is written. A function is called through the
machine's way of calling, so that only the depth of calls and the turns of loops need a bound of
their own.
-/

namespace Drawbridge.Script

/-- Where code runs. -/
structure Surroundings where
  scope : Option ScopeRef
  /-- the scope of the variables that `var` declares; those of a source are properties of the global
  object -/
  vars : Option ScopeRef
  this : Value
  strict : Bool
  file : String

/-- How a statement ends. -/
inductive Flow where
  | normal
  | returned (v : Value)
  | breakTo (label : Option Utf16)
  | continueTo (label : Option Utf16)
  deriving DecidableEq, Repr

namespace Exec

variable {α σ : Type}

/-! ## Loops -/

/-- More turns than any run can take. -/
def turns : Nat := 4611686018427387904

/-- Takes turns until one ends the loop. -/
def iterate : Nat → σ → (σ → Exec (σ ⊕ α)) → Exec α
  | 0, _, _ => stop .endless
  | n + 1, s, turn => do
    match ← turn s with
    | .inl s => iterate n s turn
    | .inr a => Pure.pure a

/-- How a loop goes on after its body: `none` for another turn. -/
def loopFlow (labels : List Utf16) : Flow → Option Flow
  | .normal => none
  | .breakTo none => some .normal
  | .continueTo none => none
  | .continueTo (some label) =>
    if labels.contains label then none else some (.continueTo (some label))
  | .breakTo (some label) => some (.breakTo (some label))
  | .returned v => some (.returned v)

/-! ## Names -/

/-- The global object as a value. -/
def globalObject : Value := .object Intrinsic.global.ref

/-- The error of a name that is used before its declaration has run. -/
def notInitialized {α : Type} (x : Utf16) : Exec α :=
  raise .reference (shown x ++ " is not initialized")

/-- The error of a name that stands for nothing. -/
def notDefined {α : Type} (x : Utf16) : Exec α := raise .reference (shown x ++ " is not defined")

/-- What a name stands for, if it stands for something. -/
def valueOf? (env : Surroundings) (x : Utf16) : Exec (Option Value) := do
  match ← read (·.variableNamed? env.scope x) with
  | some (_, _, ⟨_, some v, _⟩) => return some v
  | some _ => notInitialized x
  | none =>
    match ← read (·.lookup Intrinsic.global.ref (.text x)) with
    | some (_, p) => some <$> contentValue p globalObject
    | none => return none

/-- What a name stands for, which is an error if it is nothing. -/
def nameValue (env : Surroundings) (x : Utf16) : Exec Value := do
  match ← valueOf? env x with
  | some v => return v
  | none => notDefined x

/-- `x = v`. A constant within a function is refused before its declaration has run too. -/
def assignName (env : Surroundings) (x : Utf16) (v : Value) : Exec Unit := do
  match ← read (·.variableNamed? env.scope x) with
  | some (r, i, ⟨_, some _, .free⟩) => modify (·.setVariable r i v)
  | some (_, _, ⟨_, some _, .constant⟩) => rejectReadOnly true (.text x)
  | some (_, _, ⟨_, some _, .ownName⟩) => rejectReadOnly env.strict (.text x)
  | some (r, _, ⟨_, none, .constant⟩) =>
    if r = globalScope then notInitialized x else rejectReadOnly true (.text x)
  | some _ => notInitialized x
  | none =>
    if ← read fun m => env.strict && (m.lookup Intrinsic.global.ref (.text x)).isNone then
      notDefined x
    else put globalObject (.text x) v env.strict

/-- Gives a declared variable its first value. -/
def introduce (env : Surroundings) (x : Utf16) (v : Value) : Exec Unit := do
  match ← read (·.variableAt? env.scope x) with
  | some (r, i) => modify (·.setVariable r i v)
  | none => put globalObject (.text x) v env.strict

/-! ## Functions -/

/-- A function made where code runs. -/
def closure (env : Surroundings) (code : Code Stmt) : Exec Value := do
  let f ← newObject
    { proto := some Intrinsic.functionProto.ref
      extensible := true
      properties := #[
        (Key.ofString "length", ⟨.data (.int (Int32.ofNat code.params.length)) false, false, true⟩),
        (Key.ofString "name", ⟨.data (.text code.name) false, false, true⟩)]
      nature := .closure ⟨code, env.scope, env.this, env.file⟩ }
  let prototype (r : Ref) (writable : Bool) : Exec Unit := do
    let proto ← newObject
      ⟨some Intrinsic.objectProto.ref, true, #[("constructor", .hidden f)], .plain⟩
    define r "prototype" ⟨.data proto writable, false, false⟩
  match code.form, f with
  | .ordinary, .object r => prototype r true
  | .classBody, .object r => prototype r false
  | _, _ => Pure.pure ()
  return f

/-- Calls a value, if it can be called. -/
def callValue (f this : Value) (args : List Value) : Exec Value := do
  if ← read (·.isCallable f) then apply f this args
  else throwType "not a function"

/-- Names a function after the key it is stored under. -/
def nameFunction (f : Value) (before : Utf16) (k : Key) : Exec Unit := do
  match f with
  | .object r =>
    modify fun m => m.modifyObject r fun o =>
      o.insert "name" ⟨.data (.text (before ++ m.functionName k)) false, false, true⟩
  | _ => return

/-- A function as one of the accessors of a property. -/
def defineAccessor (r : Ref) (k : Key) (isListed isGetter : Bool) (f : Value) : Exec Unit := do
  let (getter, setter) ← read fun m =>
    match (m.object r).find? k with
    | some ⟨.accessor g s, _, _⟩ => (g, s)
    | _ => (.undefined, .undefined)
  define r k ⟨if isGetter then .accessor f setter else .accessor getter f, isListed, true⟩

/-! ## Scopes -/

/-- Runs with a scope of its own if there are variables for it, and puts the old one back whatever
comes of it. -/
def inScope (env : Surroundings) (vars : List Variable) (body : Surroundings → Exec α) :
    Exec α := do
  if vars.isEmpty then body env
  else
    let r ← update (·.openScope ⟨vars.toArray, env.scope⟩)
    modify (·.setRunScope (some r))
    after (body { env with scope := some r }) (modify (·.setRunScope env.scope))

/-- The variables of a block that its `let`, `const` and `class` declare, without values yet. -/
def lexicalVariables (body : List Stmt) : List Variable :=
  (lexicalNames body).map fun (x, free) => ⟨x, none, if free then .free else .constant⟩

/-- Makes the functions that a block declares. -/
def hoist (env : Surroundings) (body : List Stmt) : Exec Unit :=
  (body.filterMap Stmt.function?).forM fun code => do
    let f ← closure env code
    introduce env code.name f

/-- Runs the statements of a block, in a scope of its own if they declare names. -/
def inBlock (env : Surroundings) (body : List Stmt) (run : Surroundings → Exec α) : Exec α :=
  let functions : List Variable :=
    (body.filterMap Stmt.function?).map fun code => ⟨code.name, some .undefined, .free⟩
  inScope env (lexicalVariables body ++ functions) fun env => do
    hoist env body
    run env

/-- A copy of a scope for the next turn of a loop. -/
def renewScope (env : Surroundings) : Exec Surroundings := do
  match env.scope with
  | none => return env
  | some r =>
    let copy ← update fun m => m.openScope (m.scope r)
    modify (·.setRunScope (some copy))
    return { env with scope := some copy }

/-- `new f(args)`. A function of a script works on a new object of its prototype. -/
def construct (f : Value) (args : List Value) : Exec Value := do
  match f with
  | .object r =>
    if !(← read (·.isConstructor f)) then throwType "not a constructor"
    else
      match (← read (·.object r)).nature with
      | .closure _ =>
        let proto ← match ← get f "prototype" with
          | .object p => Pure.pure p
          | _ => Pure.pure Intrinsic.objectProto.ref
        let this ← newObject ⟨some proto, true, #[], .plain⟩
        let v ← applyNew f this args
        return if v.isObject then v else this
      | _ => applyNew f .undefined args
  | _ => throwType "not a function"

/-- What a step up or down makes of a value: the old number and the new one. -/
def stepped (delta : Int) (v : Value) : Exec (Value × Value) := do
  match v with
  | .int n => return (v, .ofInt (n.toInt + delta))
  | _ =>
    match ← toNumeric v with
    | .inl x => return (.number x, .number (x.add (.ofInt delta)))
    | .inr n => return (.bigInt n, .bigInt (n + delta))

/-- The value that a literal writes. -/
def literalValue : Literal → Value
  | .undefined => .undefined
  | .null => .null
  | .bool b => .bool b
  | .int n => .int n
  | .float x => .float x
  | .bigInt n => .bigInt n
  | .text s => .text s

/-- What a place that is assigned to is: a name, or a property of a value, by its key or by what
its key is made from. -/
inductive Target where
  | name (x : Utf16)
  | property (base : Value) (key : Key)
  | element (base key : Value)

namespace Target

/-- A place with its key made. A value without properties is refused before; of an object as a key
the message then has no more than that. -/
def keyed : Target → Exec Target
  | .element base key => do
    if (protoOf? base).isNone then
      let name : Utf16 ← match key with
        | .object _ => Pure.pure (Utf16.ofString "\x7b\x7d")
        | .symbol s => read (·.shownKey (.symbol s))
        | _ => shown <$> primitiveText key
      throwNothing "read" base name
    else return .property base (← toKey key)
  | t => return t

/-- The value at a place, and the place. -/
def read (env : Surroundings) (t : Target) : Exec (Value × Target) := do
  let t ← t.keyed
  match t with
  | .name x => return (← nameValue env x, t)
  | .property base key => return (← get base key, t)
  | .element _ _ => return (.undefined, t)

/-- The value that a place is a property of. -/
def owner : Target → Value
  | .name _ => .undefined
  | .property base _ => base
  | .element base _ => base

/-- Writes a value to a place. -/
def write (env : Surroundings) (v : Value) : Target → Exec Unit
  | .name x => assignName env x v
  | .property base key => put base key v env.strict
  | .element base key => do put base (← toKey key) v env.strict

end Target

/-- `delete base[key]` -/
def eraseFrom (strict : Bool) (base : Value) (key : Key) : Exec Value := do
  let gone ← erase (← toObject base) key
  if !gone then rejected strict "could not delete property"
  return .bool gone

/-- Gives an object the listed properties of a value. -/
def copyListed (r : Ref) (v : Value) : Exec Unit := do
  match v with
  | .object source =>
    (← read fun m => (m.object source).copiedKeys).forM fun k => do
      define r k (.plain (← get v k))
  | _ => return

mutual

/-- The value of an expression. -/
def evaluate (env : Surroundings) : Expr → Exec Value
  | .literal v => return literalValue v
  | .this => return env.this
  | .name x mark => do
    moveTo mark
    nameValue env x
  | .array items => do newArray (← evaluateItems env items)
  | .object members => do
    let o ← newPlain
    match o with
    | .object r => evaluateMembers env true r members
    | _ => Pure.pure ()
    return o
  | .function code =>
    if code.bindsName then do
      let r ← update (·.openScope ⟨#[⟨code.name, none, .ownName⟩], env.scope⟩)
      let f ← closure { env with scope := some r } code
      modify (·.setVariable r 0 f)
      return f
    else closure env code
  | .classOf code shared own =>
    let vars : List Variable := if code.bindsName then [⟨code.name, none, .constant⟩] else []
    inScope env vars fun env => do
      let f ← closure env code
      match f with
      | .object r =>
        match ← get f "prototype" with
        | .object p => evaluateMembers env false p shared
        | _ => Pure.pure ()
        evaluateMembers env false r own
      | _ => Pure.pure ()
      if code.bindsName then introduce env code.name f
      return f
  | .unary op e mark => do
    let v ← evaluate env e
    moveTo mark
    unary op v
  | .typeOf e => do
    let v ← evaluate env e
    return .text (.ofString (← read (·.typeName v)))
  | .typeOfName x mark => do
    moveTo mark
    let v := (← valueOf? env x).getD .undefined
    return .text (.ofString (← read (·.typeName v)))
  | .void e => do
    discard (evaluate env e)
    return .undefined
  | .delete target mark => do
    let t ← evaluateReference env target
    moveTo mark
    match t with
    | .name x =>
      let m ← machine
      if (m.variableAt? env.scope x).isSome then return .bool false
      else return .bool (← erase Intrinsic.global.ref (.text x))
    | .property base key => eraseFrom env.strict base key
    | .element base key => eraseFrom env.strict base (← toKey key)
  | .update isBefore delta target mark => do
    let t ← evaluateReference env target
    moveTo mark
    let (v, t) ← t.read env
    let (old, new) ← stepped delta v
    t.write env new
    return if isBefore then new else old
  | .binary op a b mark => do
    let x ← evaluate env a
    let y ← evaluate env b
    moveTo mark
    binary op x y
  | .logical op a b => do
    let x ← evaluate env a
    let decided : Bool := match op with
      | .and => !x.truthy
      | .or => x.truthy
      | .coalesce => x ≠ .undefined && x ≠ .null
    if decided then return x else evaluate env b
  | .conditional test yes no => do
    if (← evaluate env test).truthy then evaluate env yes
    else evaluate env no
  | .assign none target value mark => do
    let t ← evaluateReference env target
    let v ← evaluate env value
    moveTo mark
    t.write env v
    return v
  | .assign (some op) target value mark => do
    let t ← evaluateReference env target
    let (old, t) ← t.read env
    let x ← evaluate env value
    moveTo mark
    let v ← binary op old x
    t.write env v
    return v
  | .sequence a b => do
    discard (evaluate env a)
    evaluate env b
  | .member e x mark => do
    let v ← evaluate env e
    moveTo mark
    get v (.text x)
  | .index e key mark => do
    let v ← evaluate env e
    let k ← evaluate env key
    moveTo mark
    return (← (Target.element v k).read env).1
  | .call callee args mark => do
    let f ← evaluate env callee
    let values ← evaluateItems env args
    moveTo mark
    callValue f .undefined (values.map (·.getD .undefined))
  | .callAt callee args mark => do
    let (f, t) ← (← evaluateReference env callee).read env
    let values ← evaluateItems env args
    moveTo mark
    callValue f t.owner (values.map (·.getD .undefined))
  | .new callee args mark => do
    let f ← evaluate env callee
    let values ← evaluateItems env args
    moveTo mark
    construct f (values.map (·.getD .undefined))

/-- What a place is at this moment. -/
def evaluateReference (env : Surroundings) : Reference → Exec Target
  | .name x mark => do
    moveTo mark
    return .name x
  | .member e x mark => do
    let v ← evaluate env e
    moveTo mark
    return .property v (.text x)
  | .index e key mark => do
    let v ← evaluate env e
    let k ← evaluate env key
    moveTo mark
    return .element v k

/-- The values of a list; holes have none. -/
def evaluateItems (env : Surroundings) : List Item → Exec (List (Option Value))
  | [] => return []
  | .hole :: rest => do
    let values ← evaluateItems env rest
    return none :: values
  | .one e :: rest => do
    let v ← evaluate env e
    let values ← evaluateItems env rest
    return some v :: values
  | .spread e mark :: rest => do
    let v ← evaluate env e
    moveTo mark
    let vs ← (← openIterator v).rest turns []
    let values ← evaluateItems env rest
    return vs.map some ++ values

/-- Adds members to an object, listed or not. -/
def evaluateMembers (env : Surroundings) (isListed : Bool) (r : Ref) : List Member → Exec Unit
  | [] => return
  | .value key e :: rest => do
    let k ← evaluateKey env key
    let v ← evaluate env e
    match key with
    | .computed _ _ => if e.isNameless then nameFunction v "" k
    | .fixed _ => Pure.pure ()
    define r k ⟨.data v true, isListed, true⟩
    evaluateMembers env isListed r rest
  | .proto e :: rest => do
    match ← evaluate env e with
    | .object p => modify fun m => m.modifyObject r fun o => { o with proto := some p }
    | .null => modify fun m => m.modifyObject r fun o => { o with proto := none }
    | _ => Pure.pure ()
    evaluateMembers env isListed r rest
  | .method key code :: rest => do
    let k ← evaluateKey env key
    let f ← closure env code
    nameFunction f "" k
    define r k ⟨.data f true, isListed, true⟩
    evaluateMembers env isListed r rest
  | .getter key code :: rest => do
    let k ← evaluateKey env key
    let f ← closure env code
    nameFunction f "get " k
    defineAccessor r k isListed true f
    evaluateMembers env isListed r rest
  | .setter key code :: rest => do
    let k ← evaluateKey env key
    let f ← closure env code
    nameFunction f "set " k
    defineAccessor r k isListed false f
    evaluateMembers env isListed r rest
  | .spread e mark :: rest => do
    let v ← evaluate env e
    moveTo mark
    copyListed r v
    evaluateMembers env isListed r rest

/-- The key that a member is written with, computed if it has to be. -/
def evaluateKey (env : Surroundings) : MemberKey → Exec Key
  | .fixed x => return .text x
  | .computed e mark => do
    let v ← evaluate env e
    moveTo mark
    toKey v

end

/-- Gives declared names their values. -/
def declarators (env : Surroundings) (kind : DeclareKind) :
    List Declarator → Exec Unit
  | [] => return
  | .mk x value mark :: rest => do
    match value with
    | some e =>
      let v ← evaluate env e
      moveTo mark
      match kind with
      | .var => assignName env x v
      | .let | .const => introduce env x v
    | none =>
      match kind with
      | .var => Pure.pure ()
      | .let | .const => introduce env x .undefined
    declarators env kind rest

mutual

/-- Runs a statement; `labels` are the labels it stands under. -/
def execute (env : Surroundings) (labels : List Utf16) : Stmt → Exec Flow
  | .empty => return .normal
  | .function code isShared => do
    if isShared then
      let f ← closure env code
      assignName { env with scope := env.vars } code.name f
    return .normal
  | .expression e => do
    let v ← evaluate env e
    modify (·.setCompletion v)
    return .normal
  | .declare kind ds => do
    declarators env kind ds
    return .normal
  | .block body => inBlock env body fun env => executeAll env body
  | .ifElse test yes no => do
    modify (·.setCompletion .undefined)
    inBlock env [yes, no] fun env => do
      if (← evaluate env test).truthy then execute env [] yes
      else execute env [] no
  | .whileDo test body => do
    modify (·.setCompletion .undefined)
    iterate turns () fun _ => do
      if (← evaluate env test).truthy then
        match loopFlow labels (← execute env [] body) with
        | none => return .inl ()
        | some flow => return .inr flow
      else return .inr .normal
  | .doWhile body test => do
    modify (·.setCompletion .undefined)
    iterate turns () fun _ => do
      match loopFlow labels (← execute env [] body) with
      | some flow => return .inr flow
      | none =>
        if (← evaluate env test).truthy then return .inl () else return .inr .normal
  | .loop start test update body => do
    modify (·.setCompletion .undefined)
    let vars := lexicalVariables [start]
    let run (env : Surroundings) : Exec Flow := do
      discard (execute env [] start)
      -- what the head does is no completion
      modify (·.setCompletion .undefined)
      let renewed ← if vars.isEmpty then Pure.pure env else renewScope env
      iterate turns renewed fun env => do
        if (← evaluate env test).truthy then
          match loopFlow labels (← execute env [] body) with
          | some flow => return .inr flow
          | none =>
            let env ← if vars.isEmpty then Pure.pure env else renewScope env
            discard (evaluate env update)
            return .inl env
        else return .inr .normal
    inScope env vars run
  | .each overValues kind target subject body first next => do
    modify (·.setCompletion .undefined)
    let vars : List Variable := match kind, target with
      | some .let, .name x _ => [⟨x, none, .free⟩]
      | some .const, .name x _ => [⟨x, none, .constant⟩]
      | _, _ => []
    let v ← inScope env vars fun env => evaluate env subject
    moveTo first
    let turn (v : Value) : Exec (Option Flow) := inScope env vars fun env => do
      let t ← evaluateReference env target
      match kind, t with
      | some .let, .name x | some .const, .name x => introduce env x v
      | _, t => t.write env v
      return loopFlow labels (← execute env [] body)
    if overValues then
      let it ← openIterator v
      iterate turns () fun _ => do
        moveTo next
        match ← it.step with
        | none => return .inr .normal
        | some v =>
          match ← attempt (turn v) with
          | .ok none => return .inl ()
          | .ok (some flow) =>
            it.close
            return .inr flow
          | .error (.thrown e) =>
            discard (attempt it.close)
            throwValue e
          | .error s => stop s
    else if (protoOf? v).isNone then return .normal
    else
      let r ← toObject v
      let walk ← read fun m => KeyWalk.enter m r []
      iterate turns walk fun walk => do
        moveTo next
        match ← read fun m => walk.next? m (m.objects.size + 1) with
        | none => return .inr .normal
        | some (k, walk) =>
          match ← turn (.text k) with
          | none => return .inl walk
          | some flow => return .inr flow
  | .labelled label body => do
    match ← execute env (label :: labels) body with
    | .breakTo (some l) => return if l = label then .normal else .breakTo (some l)
    | flow => return flow
  | .breakTo label => return .breakTo label
  | .continueTo label => return .continueTo label
  | .returned e => do return .returned (← evaluate env e)
  | .throw e mark => do
    let v ← evaluate env e
    moveTo mark
    modify (·.restack v)
    throwValue v
  | .tryCatch body param handler => do
    modify (·.setCompletion .undefined)
    match ← attempt (inBlock env body fun env => executeAll env body) with
    | .ok flow => return flow
    | .error (.thrown v) =>
      modify (·.restack v)
      let run (env : Surroundings) : Exec Flow :=
        inBlock env handler fun env => executeAll env handler
      inScope env (param.toList.map fun x => ⟨x, some v, .free⟩) run
    | .error s => stop s
  | .tryFinally body final => do
    modify (·.setCompletion .undefined)
    let r ← attempt (inBlock env body fun env => executeAll env body)
    let completion ← read (·.completion)
    match ← inBlock env final fun env => executeAll env final with
    | .normal =>
      modify (·.setCompletion completion)
      match r with
      | .ok flow => return flow
      | .error s => stop s
    | flow => return flow

/-- Runs statements up to one that does not end normally. -/
def executeAll (env : Surroundings) : List Stmt → Exec Flow
  | [] => return .normal
  | s :: rest => do
    match ← execute env [] s with
    | .normal => executeAll env rest
    | flow => return flow

end

/-! ## Calls -/

/-- Runs as an innermost function, which is left whatever comes of it. -/
def running (run : Run) (body : Exec α) : Exec α := do
  modify fun m => { m with runs := run :: m.runs }
  after body (modify fun m => { m with runs := m.runs.drop 1 })

/-- Gives an error that passes without a backtrace the one of this place. -/
def stacking (body : Exec α) : Exec α := do
  match ← attempt body with
  | .ok a => return a
  | .error (.thrown v) =>
    modify (·.restack v)
    throwValue v
  | .error s => stop s

/-- Parameters with the arguments given for them; of two of one name the last counts. -/
def bindParams : List Utf16 → List Value → List Variable
  | [], _ => []
  | x :: rest, args =>
    let vars := bindParams rest (args.drop 1)
    if vars.any (·.name == x) then vars else ⟨x, some (args.headD .undefined), .free⟩ :: vars

/-- The `this` of a function. -/
def bindThis (c : Closure) (this : Value) : Exec Value := do
  if c.code.form = .arrow then return c.boundThis
  else if c.code.strict then return this
  else
    match this with
    | .undefined | .null => return globalObject
    | .object _ => return this
    | _ => return .object (← toObject this)

/-- Calls a function of a script. -/
def callClosure (f : Ref) (c : Closure) (i : Invocation) : Exec Value := do
  let this ← bindThis c i.this
  let params := bindParams c.code.params i.args
  let inner : List Variable :=
    ((varNamesOf c.code.body).eraseDups.filter fun x => !c.code.params.contains x).map fun x =>
      ⟨x, some .undefined, .free⟩
  let functions : List Variable :=
    ((c.code.body.filterMap Stmt.function?).map (·.name)).eraseDups.filterMap fun x =>
      if c.code.params.contains x || inner.any (·.name == x) then none
      else some ⟨x, some .undefined, .free⟩
  let r ← update (·.openScope
    ⟨(params ++ inner ++ functions ++ lexicalVariables c.code.body).toArray, c.scope⟩)
  let env : Surroundings := ⟨some r, some r, this, c.code.strict, c.file⟩
  running ⟨some f, some c.file, c.code.mark, some r, c.scope, .undefined⟩ do
    stacking do
      if c.code.form = .classBody && !i.isNew then
        throwType "class constructors must be invoked with 'new'"
      else
        hoist env c.code.body
        match ← executeAll env c.code.body with
        | .returned v => return v
        | _ => return .undefined

end Exec

end Drawbridge.Script
