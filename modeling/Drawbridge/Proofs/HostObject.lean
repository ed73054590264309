import Drawbridge.HostObject.Puppet
import Drawbridge.Proofs.Switchboard.Gate
import Mathlib.Data.List.Induction

/-!
# Bodies of host objects

An object is made step by step, and a method has the body that was given last under its name
(`body?_made_iff`).  A contract that the object passes declares only methods which have one, so a
call through a binding of it always finds a body, the one for the declared name
(`bound_method_runs_last_body`).
-/

namespace Drawbridge.HostObject

variable {β : Type}

/-! ## Making an object -/

/-- One step in the making of an object. -/
inductive Making (β : Type) where
  | also (type : String)
  | method (name : String) (body : β)

/-- The object after a step. -/
def Making.apply (o : HostObject β) : Making β → HostObject β
  | also type => o.also type
  | method name body => o.method name body

/-- An object of a type after steps in order. -/
def made (type : String) (steps : List (Making β)) : HostObject β :=
  steps.foldl Making.apply (ofType type)

theorem made_concat (type : String) (steps : List (Making β)) (step : Making β) :
    made type (steps ++ [step]) = step.apply (made type steps) := by
  simp [made]

theorem build_eq_made (type : String) (further : List String) (methods : List (String × β)) :
    build type further methods
      = made type (further.map .also ++ methods.map fun m => .method m.1 m.2) := by
  unfold build made
  rw [List.foldl_append, List.foldl_map, List.foldl_map]
  rfl

/-- The body was given under the name, and after it none was. -/
def GivenLast (steps : List (Making β)) (name : String) (body : β) : Prop :=
  ∃ earlier later, steps = earlier ++ .method name body :: later ∧
    ∀ other, .method name other ∉ later

theorem not_givenLast_nil (name : String) (body : β) : ¬ GivenLast [] name body := by
  rintro ⟨earlier, later, h, -⟩
  simp at h

theorem givenLast_concat (steps : List (Making β)) (step : Making β) (name : String) (body : β) :
    GivenLast (steps ++ [step]) name body ↔
      step = .method name body ∨
        (∀ other, step ≠ .method name other) ∧ GivenLast steps name body := by
  have unlike (later : List (Making β)) : (∀ other, .method name other ∉ later) ↔
      ∀ step ∈ later, ∀ other, step ≠ .method name other :=
    ⟨fun h step hm other e => h other (e ▸ hm), fun h other hm => h _ hm other rfl⟩
  simp only [GivenLast, unlike]
  exact exists_split_concat_iff fun step : Making β => ∀ other, step ≠ .method name other

theorem body?_method (o : HostObject β) (n : String) (body : β) (name : String) :
    (o.method n body).body? name = if n = name then some body else o.body? name := by
  unfold body? method
  by_cases h : n = name
  · rw [List.find?_cons_of_pos (by simpa using h), if_pos h]
    rfl
  · rw [List.find?_cons_of_neg (by simpa using h), if_neg h, List.find?_filter]
    congr 2
    funext m
    by_cases hm : m.1 = name
    · simp [hm, Ne.symm h]
    · simp [hm]

/-- A method has the body that was given last under its name. -/
theorem body?_made_iff (type : String) (steps : List (Making β)) (name : String) (body : β) :
    (made type steps).body? name = some body ↔ GivenLast steps name body := by
  induction steps using List.reverseRecOn with
  | nil => exact iff_of_false nofun (not_givenLast_nil name body)
  | append_singleton steps step ih =>
    rw [made_concat, givenLast_concat, ← ih]
    cases step with
    | also type =>
      show (made _ steps).body? name = some body ↔ _
      simp
    | method n other =>
      rw [Making.apply, body?_method]
      by_cases h : n = name
      · simp [h]
      · simp [h]

/-! ## Calls of an object -/

section Calls

variable {σ : Type} {play : String → β → List Datum → σ → Outcome × σ} {i : Invocation}

/-- A body that ran: the name it was given under, and what it ran on. -/
structure Turn (β : Type) where
  method : String
  body : β
  args : List Datum

/-- Carries a call out and takes down what ran. `play` says what bodies do. -/
def perform (play : String → β → List Datum → σ → Outcome × σ) (o : HostObject β) (i : Invocation)
    (s : σ × List (Turn β)) : Outcome × σ × List (Turn β) :=
  match o.body? i.signature.name with
  | some body =>
    let (outcome, memory) := play i.signature.name body i.args s.1
    (outcome, memory, ⟨i.signature.name, body, i.args⟩ :: s.2)
  | none => (.failed (lackingMessage i.signature.name), s)

/-- Puppets carry calls out in this way. -/
theorem perform_puppet (p : Puppet Behaviour) (i : Invocation) (turns : List (Turn Behaviour)) :
    let play (name : String) (body : Behaviour) (args : List Datum) (q : Puppet Behaviour) :=
      (body.outcome (q.count name + 1) args, q.record name args)
    let after := p.object.perform play i (p, turns)
    (after.1, after.2.1) = p.invoke i.signature.name i.args := by
  unfold perform Puppet.invoke
  cases p.object.body? i.signature.name <;> rfl

/-- What a call comes to and what is left of it: a call that passes is carried out by an object, and
`answer` is made of what the object did. -/
def carry {γ : Type} (play : String → β → List Datum → σ → Outcome × σ) (o : HostObject β)
    (answer : Invocation → Outcome → Except CallFault γ) (s : σ × List (Turn β)) :
    Except CallFault Invocation → Except CallFault γ × σ × List (Turn β)
  | .error fault => (.error fault, s)
  | .ok i => (answer i (o.perform play i s).1, (o.perform play i s).2)

theorem call_eq_carry (o : HostObject β) (b : Binding) (index : Nat) (args : List Datum)
    (s : σ × List (Turn β)) :
    b.call (o.perform play) index args s
      = carry play o Invocation.settle s (b.invocation index args) := by
  unfold Binding.call
  cases b.invocation index args <;> rfl

theorem dispatch_eq_carry (o : HostObject β) (board : Switchboard) (target : CallTarget)
    (args : List ScriptValue) (s : σ × List (Turn β)) :
    board.dispatch (o.perform play) target args s
      = carry play o Invocation.reply s (board.route target args) := by
  unfold Switchboard.dispatch
  cases board.route target args <;> rfl

end Calls

/-! ## Calls through a binding -/

section Bound

variable {σ : Type} {type : String} {steps : List (Making β)} {c : Contract} {b : Binding}
  {index : Nat} {m : Signature} {i : Invocation}

/-- A method that an accepted contract declares has a body. -/
theorem exists_body (accepted : c.check (made type steps).facets = .ok b.roster)
    (declared : m ∈ c.methods) : ∃ body, GivenLast steps m.name body := by
  have responds := (Contract.satisfied_of_check accepted).responds m declared
  obtain ⟨body, found⟩ := Option.isSome_iff_exists.1 responds
  exact ⟨body, (body?_made_iff type steps m.name body).1 found⟩

/-- The call is of the method at this place, and in the end the one body that ran is the one given
last under the name of this method. -/
def RunsLast {γ : Type} (steps : List (Making β)) (c : Contract) (index : Nat)
    (play : String → β → List Datum → σ → Outcome × σ)
    (answer : Invocation → Outcome → Except CallFault γ) (i : Invocation) (s : σ × List (Turn β))
    (after : Except CallFault γ × σ × List (Turn β)) : Prop :=
  ∃ m body, c.methods[index]? = some m ∧ GivenLast steps m.name body ∧
    after = (answer i (play m.name body i.args s.1).1, (play m.name body i.args s.1).2,
      ⟨m.name, body, i.args⟩ :: s.2)

theorem runsLast_carry {γ : Type} (accepted : c.check (made type steps).facets = .ok b.roster)
    (method : b.roster.method? index = some i.signature)
    (play : String → β → List Datum → σ → Outcome × σ)
    (answer : Invocation → Outcome → Except CallFault γ) (s : σ × List (Turn β)) :
    RunsLast steps c index play answer i s (carry play (made type steps) answer s (.ok i)) := by
  have roster := (Contract.checkMethods_of_check accepted).1
  have declared : c.methods[index]? = some i.signature := by
    rw [roster] at method
    exact method
  obtain ⟨body, last⟩ := exists_body accepted (List.mem_of_getElem? declared)
  have found := (body?_made_iff type steps i.signature.name body).2 last
  refine ⟨i.signature, body, declared, last, ?_⟩
  simp only [carry, perform, found]

/-- What was taken down of a method that the contract does not declare is as before. -/
theorem RunsLast.filter_turns {γ : Type} {play : String → β → List Datum → σ → Outcome × σ}
    {answer : Invocation → Outcome → Except CallFault γ} {s : σ × List (Turn β)}
    {after : Except CallFault γ × σ × List (Turn β)}
    (runs : RunsLast steps c index play answer i s after) {name : String}
    (undeclared : ∀ m ∈ c.methods, m.name ≠ name) :
    after.2.2.filter (·.method = name) = s.2.filter (·.method = name) := by
  obtain ⟨m, body, declared, -, rfl⟩ := runs
  have other := undeclared m (List.mem_of_getElem? declared)
  exact List.filter_cons_of_neg (by simpa using other)

/-- Of an object that passes a contract, a call through a binding of it runs the body that was given
last under the name of the method at its place, and nothing else; a call that does not pass the
checks runs nothing.  So a method that the contract does not declare is never run. -/
theorem bound_method_runs_last_body
    (accepted : c.check (made type steps).facets = .ok b.roster)
    (play : String → β → List Datum → σ → Outcome × σ) (index : Nat) (s : σ × List (Turn β)) :
    let perform := (made type steps).perform play
    (∀ args i, b.invocation index args = .ok i →
      RunsLast steps c index play Invocation.settle i s (b.call perform index args s)) ∧
    (∀ (board : Switchboard) args i, board.route ⟨b, index⟩ args = .ok i →
      RunsLast steps c index play Invocation.reply i s
        (board.dispatch perform ⟨b, index⟩ args s)) ∧
    (∀ args fault, b.invocation index args = .error fault →
      b.call perform index args s = (.error fault, s)) ∧
    (∀ (board : Switchboard) args fault, board.route ⟨b, index⟩ args = .error fault →
      board.dispatch perform ⟨b, index⟩ args s = (.error fault, s)) ∧
    ∀ name, (∀ m ∈ c.methods, m.name ≠ name) →
      (∀ args, (b.call perform index args s).2.2.filter (·.method = name)
        = s.2.filter (·.method = name)) ∧
      ∀ (board : Switchboard) args,
        (board.dispatch perform ⟨b, index⟩ args s).2.2.filter (·.method = name)
          = s.2.filter (·.method = name) := by
  intro perform
  simp only [perform, call_eq_carry, dispatch_eq_carry]
  have ofCall {args : List Datum} {i : Invocation} (passes : b.invocation index args = .ok i) :
      b.roster.method? index = some i.signature :=
    (Binding.invocationBy_eq_ok_iff.1 passes).2.1
  have ofScript {board : Switchboard} {args : List ScriptValue} {i : Invocation}
      (passes : board.route ⟨b, index⟩ args = .ok i) : b.roster.method? index = some i.signature :=
    (Switchboard.route_eq_ok_iff.1 passes).method
  refine ⟨fun args i passes => ?_, fun board args i passes => ?_, fun args fault fails => ?_,
    fun board args fault fails => ?_, fun name undeclared => ⟨fun args => ?_, fun board args => ?_⟩⟩
  · rw [passes]
    exact runsLast_carry accepted (ofCall passes) play _ s
  · rw [passes]
    exact runsLast_carry accepted (ofScript passes) play _ s
  · rw [fails]
    rfl
  · rw [fails]
    rfl
  · cases passes : b.invocation index args with
    | error fault => rfl
    | ok i => exact (runsLast_carry accepted (ofCall passes) play _ s).filter_turns undeclared
  · cases passes : board.route ⟨b, index⟩ args with
    | error fault => rfl
    | ok i => exact (runsLast_carry accepted (ofScript passes) play _ s).filter_turns undeclared

/-- A counter that was given `next` twice and has a method `drop` besides: a binding that declares
`next` alone runs the second body, from script and from the host, and `drop` by no place. -/
theorem bound_method_runs_last_body_counter :
    let steps : List (Making Int32) :=
      [.method "next" 1, .also "Named", .method "drop" 3, .method "next" 2]
    let c : Contract := ⟨"Counter", false, [], [⟨"next", [], .int32⟩]⟩
    let b : Binding := ⟨1, "counter", ⟨"Counter", c.methods⟩, ⟨0⟩⟩
    let board := Switchboard.empty.commit b
    let play (_ : String) (body : Int32) (_ : List Datum) (_ : Unit) :=
      (Outcome.returned (.int body), ())
    let perform := (made "Counter" steps).perform play
    c.check (made "Counter" steps).facets = .ok b.roster ∧
      (b.call perform 0 [] ((), [])).2.2.map (·.body) = [2] ∧
      (board.dispatch perform ⟨b, 0⟩ [] ((), [])).2.2.map (·.body) = [2] ∧
      b.call perform 1 [] ((), []) = (.error (.unknownMethod "counter" 1), (), []) ∧
      board.dispatch perform ⟨b, 1⟩ [] ((), []) = (.error (.unknownMethod "counter" 1), (), []) ∧
      (b.call perform 0 [] ((), [])).2.2.filter (·.method = "drop") = [] := by
  intro steps c b board play perform
  have accepted : c.check (made "Counter" steps).facets = .ok b.roster := by decide
  have second (body : Int32) (last : GivenLast steps "next" body) : body = 2 :=
    Option.some.inj (((body?_made_iff "Counter" steps "next" body).2 last).symm.trans (by rfl))
  obtain ⟨call, dispatch, -, -, undeclared⟩ :=
    bound_method_runs_last_body accepted play 0 ((), [])
  obtain ⟨-, -, noCall, noDispatch, -⟩ := bound_method_runs_last_body accepted play 1 ((), [])
  refine ⟨accepted, ?_, ?_, noCall [] _ rfl, noDispatch board [] _ rfl,
    (undeclared "drop" (by decide)).1 []⟩
  · obtain ⟨m, body, declared, last, e⟩ := call [] ⟨b, ⟨"next", [], .int32⟩, []⟩ rfl
    obtain rfl := Option.some.inj declared
    rw [e, second body last]
    rfl
  · obtain ⟨m, body, declared, last, e⟩ := dispatch board [] ⟨b, ⟨"next", [], .int32⟩, []⟩ rfl
    obtain rfl := Option.some.inj declared
    rw [e, second body last]
    rfl

end Bound

end Drawbridge.HostObject
