import Drawbridge.Script.BuiltIn.Stringify

/-!
# Calls

How a function is called, be it of a script, built in, or of the host. `Call.within` bounds the
depth of calls: where it is used up a call is an error.
-/

namespace Drawbridge.Script

/-- The name of a built-in function. -/
def BuiltIn.name : BuiltIn → String
  | functionRoot => ""
  | functionNew => "Function"
  | objectNew => "Object"
  | objectKeys => "keys"
  | objectCreate => "create"
  | objectDefine => "defineProperty"
  | objectFreeze => "freeze"
  | objectPrevent => "preventExtensions"
  | objectProto => "getPrototypeOf"
  | objectToText | functionToText | errorToText | arrayToText | textToText | numberToText
  | boolToText | symbolToText | bigIntToText => "toString"
  | objectValue | textValue | numberValue | boolValue | symbolValue | bigIntValue | dateValue =>
    "valueOf"
  | objectHasOwn => "hasOwnProperty"
  | protoGet => "get __proto__"
  | protoSet => "set __proto__"
  | functionCall => "call"
  | functionApply => "apply"
  | errorNew .error => "Error"
  | errorNew .type => "TypeError"
  | errorNew .range => "RangeError"
  | errorNew .reference => "ReferenceError"
  | errorNew .syntaxError => "SyntaxError"
  | errorNew .internal => "InternalError"
  | arrayNew => "Array"
  | arrayIsArray => "isArray"
  | arrayMap => "map"
  | arrayPush => "push"
  | arrayJoin => "join"
  | textNew => "String"
  | textRepeat => "repeat"
  | textUpper => "toUpperCase"
  | numberNew => "Number"
  | boolNew => "Boolean"
  | symbolNew => "Symbol"
  | bigIntNew => "BigInt"
  | dateNew => "Date"
  | dateZone => "getTimezoneOffset"
  | promiseNew => "Promise"
  | promiseResolve => "resolve"
  | promiseReject => "reject"
  | promiseThen => "then"
  | promiseSettle => ""
  | jsonStringify => "stringify"
  | arrayValues => "values"
  | textValues | walkSelf => "[Symbol.iterator]"
  | walkNext => "next"

/-- The number of parameters of a built-in function. -/
def BuiltIn.arity : BuiltIn → Nat
  | objectCreate | functionApply | promiseThen => 2
  | objectDefine | jsonStringify => 3
  | dateNew => 7
  | functionNew | objectNew | objectKeys | objectFreeze | objectPrevent | objectProto
  | objectHasOwn | protoSet | functionCall | errorNew _ | arrayNew | arrayIsArray | arrayMap
  | arrayPush | arrayJoin | textNew | textRepeat | numberNew | numberToText | boolNew
  | bigIntNew | promiseNew | promiseResolve | promiseReject | promiseSettle => 1
  | _ => 0

namespace Exec

/-- Calls a built-in function. -/
def callBuiltIn (f : BuiltIn) (this : Value) (args : List Value) : Exec Value :=
  match f with
  | .functionRoot => pure .undefined
  | .functionNew => throwType "functions are not made from text"
  | .objectNew => objectNew args
  | .objectKeys => objectKeys args
  | .objectCreate => objectCreate args
  | .objectDefine => objectDefine args
  | .objectFreeze => objectFreeze args
  | .objectPrevent => objectPrevent args
  | .objectProto => objectProto args
  | .objectToText => objectToText this
  | .objectValue => objectValue this
  | .objectHasOwn => objectHasOwn this args
  | .protoGet => protoGet this
  | .protoSet => protoSet this args
  | .functionCall => functionCall this args
  | .functionApply => functionApply this args
  | .functionToText => functionToText this
  | .errorNew c => errorNew c args
  | .errorToText => errorToText this
  | .arrayNew => arrayNew args
  | .arrayIsArray => arrayIsArray args
  | .arrayMap => arrayMap this args
  | .arrayPush => arrayPush this args
  | .arrayJoin => arrayJoin this args
  | .arrayToText => arrayToText this
  | .arrayValues => arrayValues this
  | .textNew => do return .text (← textOf args)
  | .textRepeat => textRepeat this args
  | .textUpper => textUpper this
  | .textToText | .textValue => textThis this
  | .textValues => textValues this
  | .walkNext => walkNext this
  | .walkSelf => pure this
  | .numberNew => numberOf args
  | .numberToText => numberToText this args
  | .numberValue => numberThis this
  | .boolNew => pure (boolOf args)
  | .boolToText => boolToText this
  | .boolValue => boolThis this
  | .symbolNew => symbolNew args
  | .symbolToText => symbolToText this
  | .symbolValue => symbolValue this
  | .bigIntNew => bigIntOf args
  | .bigIntToText => bigIntToText this args
  | .bigIntValue => bigIntThis this
  | .dateNew => pure (.text "Invalid Date")
  | .dateZone => dateZone this
  | .dateValue => dateValue this
  | .promiseNew => throwType "must be called with new"
  | .promiseResolve => promiseResolve args
  | .promiseReject | .promiseThen => newPromise
  | .promiseSettle => pure .undefined
  | .jsonStringify => jsonStringify args

/-- Makes an object with a built-in constructor. -/
def makeBuiltIn (f : BuiltIn) (args : List Value) : Exec Value :=
  match f with
  | .textNew => do
    match args with
    | .symbol _ :: _ => throwType "cannot convert symbol to string"
    | _ => wrap (.text (← textOf args))
  | .numberNew => do wrap (← numberOf args)
  | .boolNew => wrap (boolOf args)
  | .dateNew => dateNew args
  | .promiseNew => promiseNew args
  | .symbolNew | .bigIntNew => throwType "not a constructor"
  | _ => callBuiltIn f .undefined args

/-! ## The host -/

/-- The longest message of an error about a call, in bytes. -/
def messageBytes : Nat := 255

/-- A message cut to what an error about a call can hold. -/
def clipped (message : String) : Utf16 :=
  (Utf16.ofList (message.toList.takeWhile (· ≠ '\x00'))).head messageBytes

/-- The error that a fault of a call is to a script. -/
def throwFault (fault : CallFault) : Exec Value :=
  match fault.severity with
  | .reference => raise .reference (clipped fault.message)
  | .type => raise .type (clipped fault.message)
  | .plain => raise .error (.ofString fault.message)

/-- What a function of a proxy does with the answer of the host: a fault is thrown, and a value is
returned as the primitive that it is to a script. -/
def answered : Answer → Exec Value
  | .error fault => throwFault fault
  | .ok (.text s) => textValue s
  | .ok v => return .ofBridge v

/-- Calls a method of the host. -/
def callProxy (target : CallTarget) (args : List Value) : Exec Value := do
  let values ← read fun m => args.map m.toBridge
  answered (← host target values)

/-! ## All functions -/

/-- Calls what can be called. A method of the host does not count among the functions running. -/
def call (i : Invocation) : Exec Value := do
  match i.callee with
  | .object r =>
    match (← read (·.object r)).nature with
    | .closure c => callClosure r c i
    | .builtIn f =>
      running ⟨some r, none, ⟨1, 1⟩, none, none, .undefined⟩
        (if i.isNew then makeBuiltIn f i.args else callBuiltIn f i.this i.args)
    | .proxy target => callProxy target i.args
    | _ => throwType "not a function"
  | _ => throwType "not a function"

end Exec

/-- Calls that may be nested so deep. -/
def Call.within : Nat → Call
  | 0 => fun _ m =>
    (Exec.raise .range "Maximum call stack size exceeded" : Exec Value)
      (fun _ m => .done (.error .endless) m) m
  | n + 1 => fun i m => Exec.call i (Call.within n) m

/-- What a script that is under way takes of the room for calls, besides the calls it makes. -/
def scriptDepth : Nat := 16

/-- Runs a script on a machine, with as many calls as its limit leaves room for. -/
def Exec.start {α : Type} (x : Exec α) (m : Machine) : Activity Machine (Except Stop α) :=
  x (Call.within (m.depthLimit - m.runs.length - scriptDepth * m.working)) m

end Drawbridge.Script
