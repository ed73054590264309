import Drawbridge.Proofs.Contract
import Drawbridge.Proofs.Switchboard.Gate

/-!
# Calls from both sides

A method may be called with host values, which must have the kinds of its parameters, and from
script, where the gate reads what is given.  For a binding of an accepted contract the two come to
the same (`dispatch_agrees_call`): a script that passes the script values for some host values is
answered as the host is that passes these, each number in the form that its parameter has for it.
-/

namespace Drawbridge

/-! ## Answers that agree -/

/-- The faults are one, but what a mismatch says was found. -/
inductive CallFault.Alike : CallFault → CallFault → Prop
  | refl (fault : CallFault) : Alike fault fault
  | mismatch (method : String) (index : Nat) (expected : Kind) (found found' : String) :
    Alike (.mismatch method index expected found) (.mismatch method index expected found')

/-- Two answers are one value, seen through `f`, or alike faults. -/
inductive Agree {α β : Type} (f : β → α) : Except CallFault α → Except CallFault β → Prop
  | ok (b : β) : Agree f (.ok (f b)) (.ok b)
  | error {fault fault' : CallFault} (alike : fault.Alike fault') :
    Agree f (.error fault) (.error fault')

theorem Agree.map {α β : Type} {x y : Except CallFault α} (agree : Agree id x y) (f : α → β) :
    Agree id (x.map f) (y.map f) := by
  cases agree with
  | ok a => exact .ok (f a)
  | error alike => exact .error alike

/-! ## Suited arguments -/

/-- Host values in the forms that the kinds have for them, one by one. -/
def suitedTo : List Kind → List Datum → List Datum
  | kind :: kinds, d :: ds => d.suited kind :: suitedTo kinds ds
  | _, ds => ds

@[simp] theorem length_suitedTo (kinds : List Kind) (ds : List Datum) :
    (suitedTo kinds ds).length = ds.length := by
  induction kinds generalizing ds with
  | nil => rfl
  | cons kind kinds ih => cases ds <;> simp [suitedTo, ih]

/-- Host values in the forms that the parameters of a method have for them. -/
def Binding.suited (b : Binding) (index : Nat) (args : List Datum) : List Datum :=
  match b.roster.method? index with
  | some s => suitedTo s.params args
  | none => args

/-- By way of script a host value fits if it does in the form of the kind. -/
theorem agree_convertArgs {kinds : List Kind} (params : ∀ kind ∈ kinds, kind.isParameter = true)
    (method : String) (index : Nat) (args : List Datum) :
    Agree id (Binding.convertArgs Binding.reading method index kinds (args.map .ofDatum))
      (Binding.convertArgs Binding.exactly method index kinds (suitedTo kinds args)) := by
  induction kinds generalizing args index with
  | nil => exact .ok []
  | cons kind kinds ih =>
    cases args with
    | nil => exact .ok []
    | cons d args =>
      have hread := ScriptValue.read_ofDatum (params kind (List.mem_cons_self ..)) d
      have rest := ih (fun k hk => params k (List.mem_cons_of_mem _ hk)) (index + 1) args
      simp only [List.map_cons, suitedTo, Binding.convertArgs, Binding.reading, Binding.exactly,
        hread]
      split_ifs
      · exact rest.map (d.suited kind :: ·)
      · exact .error (.mismatch ..)

/-- The host is called alike from both sides, or from neither. -/
theorem agree_invocation {b : Binding} (supported : ∀ s ∈ b.roster.methods, s.Supported)
    (index : Nat) (args : List Datum) :
    Agree id (b.scriptInvocation index (args.map .ofDatum))
      (b.invocation index (b.suited index args)) := by
  rw [Binding.scriptInvocation_eq, Binding.invocation_eq]
  cases hm : b.roster.method? index with
  | none =>
    have missing {α : Type} {convert : Kind → α → Except String Datum} {args : List α} :
        Binding.invocationBy convert b index args = .error (.unknownMethod b.name index) :=
      Binding.invocationBy_eq_error_iff.2 (.inl ⟨hm, rfl⟩)
    rw [missing, missing]
    exact .error (.refl _)
  | some s =>
    have hsuited : b.suited index args = suitedTo s.params args := by
      unfold Binding.suited
      rw [hm]
    by_cases given : args.length = s.arity
    · rw [Binding.invocationBy_of_method hm (by rwa [List.length_map]), hsuited,
        Binding.invocationBy_of_method hm (by rwa [length_suitedTo])]
      have params := (supported s (List.mem_of_getElem? hm)).params
      exact (agree_convertArgs params (b.qualified s) 0 args).map _
    · have count {α : Type} {convert : Kind → α → Except String Datum} {values : List α}
          (h : values.length = args.length) : Binding.invocationBy convert b index values
            = .error (.arity (b.qualified s) s.arity args.length) :=
        Binding.invocationBy_eq_error_iff.2 (.inr ⟨s, hm, .inl ⟨h ▸ given, h ▸ rfl⟩⟩)
      rw [count (List.length_map ..), count (by rw [hsuited, length_suitedTo])]
      exact .error (.refl _)

/-! ## Calls that agree -/

section Calls

variable {contract : Contract} {facets : Facets} {board : Switchboard} {b : Binding}

/-- A call from script with the script values for some host values is answered as a call with these
values, each in the form that its parameter has for it, and the host does the same for both. -/
theorem Switchboard.dispatch_agrees_call {σ : Type} (perform : Invocation → σ → Outcome × σ)
    (accepted : contract.check facets = .ok b.roster) (published : (board.get? b.name).isSome)
    (index : Nat) (args : List Datum) (s : σ) :
    Agree .ofDatum (board.dispatch perform ⟨b, index⟩ (args.map .ofDatum) s).1
        (b.call perform index (b.suited index args) s).1 ∧
      (board.dispatch perform ⟨b, index⟩ (args.map .ofDatum) s).2
        = (b.call perform index (b.suited index args) s).2 := by
  have agree := agree_invocation (Contract.supported_of_check accepted) index args
  unfold dispatch Binding.call
  rw [route_of_published published]
  generalize b.scriptInvocation index (args.map .ofDatum) = x at agree ⊢
  generalize b.invocation index (b.suited index args) = y at agree ⊢
  cases agree with
  | error alike => exact ⟨.error alike, rfl⟩
  | ok i =>
    refine ⟨?_, rfl⟩
    show Agree _ (i.reply (perform i s).1) (i.settle (perform i s).1)
    unfold Invocation.reply
    cases i.settle (perform i s).1 with
    | ok d => exact .ok d
    | error fault => exact .error (.refl fault)

end Calls

/-- A contract of one method. -/
def scales : Contract := ⟨"Scales", false, [], [⟨"weigh", [.int32, .double], .double⟩]⟩

/-- A binding of this contract. -/
def scale : Binding := ⟨1, "scale", ⟨"Scales", scales.methods⟩, ⟨0⟩⟩

/-- A host that returns its last argument and writes down what it is called for. -/
def noting (i : Invocation) (notes : List Invocation) : Outcome × List Invocation :=
  (.returned (i.args.getLastD .void), i :: notes)

/-- A script that passes 3 as a double and 2 as an integer is answered as a host that passes them
the other way round. -/
theorem dispatch_agrees_call_weigh :
    Agree .ofDatum
        ((Switchboard.empty.commit scale).dispatch noting ⟨scale, 0⟩
          ([.double (ScriptValue.doubleOfInt 3), .int 2].map .ofDatum) []).1
        (scale.call noting 0 [.int 3, .double (ScriptValue.doubleOfInt 2)] []).1 ∧
      ((Switchboard.empty.commit scale).dispatch noting ⟨scale, 0⟩
          ([.double (ScriptValue.doubleOfInt 3), .int 2].map .ofDatum) []).2
        = (scale.call noting 0 [.int 3, .double (ScriptValue.doubleOfInt 2)] []).2 := by
  have accepted : scales.check ⟨fun _ => true, fun _ => true⟩ = .ok scale.roster := rfl
  have published : ((Switchboard.empty.commit scale).get? scale.name).isSome := by decide
  have suited : scale.suited 0 [.double (ScriptValue.doubleOfInt 3), .int 2]
      = [.int 3, .double (ScriptValue.doubleOfInt 2)] := by decide +kernel
  have agree := Switchboard.dispatch_agrees_call noting accepted published 0
    [.double (ScriptValue.doubleOfInt 3), .int 2] []
  rwa [suited] at agree

end Drawbridge
