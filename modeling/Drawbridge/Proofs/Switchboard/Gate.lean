import Drawbridge.Proofs.Contract
import Drawbridge.Proofs.ScriptValue
import Drawbridge.Proofs.Switchboard.Publication

/-!
# The gate

`Admits` says which calls from script the gate lets through and what invocation comes of them,
`Refuses` which check a call fails first and with what fault.  `route_eq_ok_iff` and
`route_eq_error_iff` say that the gate does just this.
-/

namespace Drawbridge

/-! ## Arguments -/

namespace Binding

variable {α ε : Type} {kinds : List Kind} {args : List α}

section Convert

variable {convert : Kind → α → Except String Datum} {method : String} {index : Nat}

theorem convertArgs_eq_ok_iff {ds : List Datum} :
    convertArgs convert method index kinds args = .ok ds ↔
      List.zipWith convert kinds args = ds.map .ok := by
  induction kinds generalizing args index ds with
  | nil => cases ds <;> simp [convertArgs]
  | cons kind kinds ih =>
    cases args with
    | nil => cases ds <;> simp [convertArgs]
    | cons a args =>
      rw [convertArgs, List.zipWith_cons_cons]
      cases ha : convert kind a with
      | error found => cases ds <;> simp
      | ok d =>
        cases ds with
        | nil => cases h : convertArgs convert method (index + 1) kinds args <;> simp
        | cons e ds =>
          have rest : convertArgs convert method (index + 1) kinds args = .ok ds ↔ _ := ih
          rw [List.map_cons, List.cons.injEq, ← rest]
          cases h : convertArgs convert method (index + 1) kinds args <;> simp

end Convert

/-- The first argument that does not fit is the one at place `n`. -/
structure Mismatch (convert : Kind → α → Except ε Datum) (kinds : List Kind) (args : List α)
    (n : Nat) (kind : Kind) (found : ε) : Prop where
  here : ∃ a, kinds[n]? = some kind ∧ args[n]? = some a ∧ convert kind a = .error found
  before : ∀ j < n, ∀ kind a, kinds[j]? = some kind → args[j]? = some a →
    ∃ d, convert kind a = .ok d

section Mismatch

variable {convert : Kind → α → Except ε Datum} {kind k : Kind} {a : α} {found : ε}

theorem mismatch_zero_iff :
    Mismatch convert (kind :: kinds) (a :: args) 0 k found ↔
      kind = k ∧ convert kind a = .error found := by
  constructor
  · rintro ⟨⟨b, hk, hb, h⟩, -⟩
    simp only [List.getElem?_cons_zero, Option.some.injEq] at hk hb
    subst hk hb
    exact ⟨rfl, h⟩
  · rintro ⟨rfl, h⟩
    exact ⟨⟨a, rfl, rfl, h⟩, fun j hj => absurd hj (Nat.not_lt_zero j)⟩

theorem mismatch_succ_iff {n : Nat} :
    Mismatch convert (kind :: kinds) (a :: args) (n + 1) k found ↔
      (∃ d, convert kind a = .ok d) ∧ Mismatch convert kinds args n k found := by
  constructor
  · rintro ⟨here, before⟩
    exact ⟨before 0 (Nat.succ_pos n) kind a rfl rfl, by simpa using here,
      fun j hj k b hk hb => before (j + 1) (Nat.succ_lt_succ hj) k b hk hb⟩
  · rintro ⟨first, here, before⟩
    refine ⟨by simpa using here, fun j hj k b hk hb => ?_⟩
    cases j with
    | zero =>
      simp only [List.getElem?_cons_zero, Option.some.injEq] at hk hb
      subst hk hb
      exact first
    | succ j => exact before j (Nat.lt_of_succ_lt_succ hj) k b hk hb

end Mismatch

theorem convertArgs_eq_error_iff {convert : Kind → α → Except String Datum} {method : String}
    {index : Nat} {fault : CallFault} :
    convertArgs convert method index kinds args = .error fault ↔
      ∃ n kind found, Mismatch convert kinds args n kind found ∧
        fault = .mismatch method (index + n) kind found := by
  induction kinds generalizing args index with
  | nil =>
    refine iff_of_false nofun ?_
    rintro ⟨n, kind, found, ⟨⟨a, hk, -⟩, -⟩, -⟩
    simp at hk
  | cons kind kinds ih =>
    cases args with
    | nil =>
      refine iff_of_false nofun ?_
      rintro ⟨n, kind, found, ⟨⟨a, -, ha, -⟩, -⟩, -⟩
      simp at ha
    | cons a args =>
      rw [convertArgs]
      cases ha : convert kind a with
      | error found =>
        constructor
        · intro h
          obtain rfl := Except.error.inj h
          exact ⟨0, kind, found, mismatch_zero_iff.2 ⟨rfl, ha⟩, rfl⟩
        · rintro ⟨n, k, f, h, rfl⟩
          cases n with
          | zero =>
            obtain ⟨rfl, hf⟩ := mismatch_zero_iff.1 h
            rw [ha] at hf
            rw [Except.error.inj hf]
            rfl
          | succ n =>
            obtain ⟨⟨d, hd⟩, -⟩ := mismatch_succ_iff.1 h
            rw [ha] at hd
            cases hd
      | ok d =>
        have htail : (d :: ·) <$> convertArgs convert method (index + 1) kinds args = .error fault ↔
            convertArgs convert method (index + 1) kinds args = .error fault := by
          cases convertArgs convert method (index + 1) kinds args <;> simp
        rw [htail, ih]
        constructor
        · rintro ⟨n, k, found, h, rfl⟩
          exact ⟨n + 1, k, found, mismatch_succ_iff.2 ⟨⟨d, ha⟩, h⟩, by rw [Nat.add_right_comm]; rfl⟩
        · rintro ⟨n, k, found, h, rfl⟩
          cases n with
          | zero =>
            obtain ⟨-, hf⟩ := mismatch_zero_iff.1 h
            rw [ha] at hf
            cases hf
          | succ n =>
            exact ⟨n, k, found, (mismatch_succ_iff.1 h).2, by rw [Nat.add_right_comm]; rfl⟩

/-! ## Methods -/

section Signature

variable {b : Binding} {index given : Nat} {s : Signature} {fault : CallFault}

theorem signature_eq_ok_iff :
    b.signature index given = .ok s ↔ b.roster.method? index = some s ∧ given = s.arity := by
  unfold signature
  cases hm : b.roster.method? index with
  | none => simp
  | some m =>
    by_cases hg : given = m.arity
    · simp only [hg, if_true, Except.ok.injEq, Option.some.injEq]
      exact ⟨fun h => ⟨h, h ▸ rfl⟩, And.left⟩
    · simp only [hg, if_false, reduceCtorEq, Option.some.injEq, false_iff, not_and]
      exact fun h => h ▸ hg

theorem signature_eq_error_iff :
    b.signature index given = .error fault ↔
      b.roster.method? index = none ∧ fault = .unknownMethod b.name index ∨
        ∃ s, b.roster.method? index = some s ∧ given ≠ s.arity ∧
          fault = .arity (b.qualified s) s.arity given := by
  unfold signature
  cases hm : b.roster.method? index with
  | none => simp [eq_comm]
  | some m => by_cases hg : given = m.arity <;> simp [hg, eq_comm]

end Signature

/-! ## Calls -/

/-- A call with arguments that are taken through `convert`. -/
def invocationBy (convert : Kind → α → Except String Datum) (b : Binding) (index : Nat)
    (args : List α) : Except CallFault Invocation := do
  let s ← b.signature index args.length
  let args ← convertArgs convert (b.qualified s) 0 s.params args
  return ⟨b, s, args⟩

theorem invocation_eq (b : Binding) (index : Nat) (args : List Datum) :
    b.invocation index args = invocationBy exactly b index args := rfl

theorem scriptInvocation_eq (b : Binding) (index : Nat) (args : List ScriptValue) :
    b.scriptInvocation index args = invocationBy reading b index args := rfl

section Calls

variable {convert : Kind → α → Except String Datum} {b : Binding} {index : Nat}

theorem invocationBy_of_method {s : Signature} (method : b.roster.method? index = some s)
    (given : args.length = s.arity) :
    invocationBy convert b index args
      = (convertArgs convert (b.qualified s) 0 s.params args).map fun ds => ⟨b, s, ds⟩ := by
  unfold invocationBy
  rw [signature_eq_ok_iff.2 ⟨method, given⟩]
  rfl

theorem invocationBy_eq_ok_iff {i : Invocation} :
    invocationBy convert b index args = .ok i ↔
      i.binding = b ∧ b.roster.method? index = some i.signature ∧
        args.length = i.signature.arity ∧
        List.zipWith convert i.signature.params args = i.args.map .ok := by
  cases hs : b.signature index args.length with
  | error fault =>
    refine iff_of_false ?_ fun ⟨_, hm, hg, _⟩ => ?_
    · unfold invocationBy
      rw [hs]
      nofun
    · rw [signature_eq_ok_iff.2 ⟨hm, hg⟩] at hs
      cases hs
  | ok s =>
    obtain ⟨hm, hg⟩ := signature_eq_ok_iff.1 hs
    rw [invocationBy_of_method hm hg, hm]
    obtain ⟨c, m, ds⟩ := i
    constructor
    · intro h
      cases hc : convertArgs convert (b.qualified s) 0 s.params args with
      | error fault =>
        rw [hc] at h
        cases h
      | ok ds' =>
        rw [hc] at h
        obtain ⟨rfl, rfl, rfl⟩ := Invocation.mk.inj (Except.ok.inj h)
        exact ⟨rfl, rfl, hg, convertArgs_eq_ok_iff.1 hc⟩
    · rintro ⟨rfl, hm, -, hz⟩
      obtain rfl := Option.some.inj hm
      rw [convertArgs_eq_ok_iff.2 hz]
      rfl

theorem invocationBy_eq_error_iff {fault : CallFault} :
    invocationBy convert b index args = .error fault ↔
      b.roster.method? index = none ∧ fault = .unknownMethod b.name index ∨
      ∃ s, b.roster.method? index = some s ∧
        (args.length ≠ s.arity ∧ fault = .arity (b.qualified s) s.arity args.length ∨
          args.length = s.arity ∧ ∃ n kind found, Mismatch convert s.params args n kind found ∧
            fault = .mismatch (b.qualified s) n kind found) := by
  cases hs : b.signature index args.length with
  | error f =>
    have h : invocationBy convert b index args = .error f := by
      unfold invocationBy
      rw [hs]
      rfl
    rw [h, Except.error.injEq]
    rcases signature_eq_error_iff.1 hs with ⟨hm, rfl⟩ | ⟨s, hm, hg, rfl⟩
    · simp [hm, eq_comm]
    · simp [hm, hg, eq_comm]
  | ok s =>
    obtain ⟨hm, hg⟩ := signature_eq_ok_iff.1 hs
    have hmap : (convertArgs convert (b.qualified s) 0 s.params args).map
        (fun ds => (⟨b, s, ds⟩ : Invocation)) = .error fault ↔
        convertArgs convert (b.qualified s) 0 s.params args = .error fault := by
      cases convertArgs convert (b.qualified s) 0 s.params args <;> simp [Except.map]
    rw [invocationBy_of_method hm hg, hmap, convertArgs_eq_error_iff]
    simp [hm, hg]

end Calls

/-! ## Calls from script -/

variable {values : List ScriptValue}

theorem reading_eq_ok_iff {kind : Kind} {v : ScriptValue} {d : Datum} :
    reading kind v = .ok d ↔ ScriptValue.read kind v = .ok d := by
  unfold reading
  cases ScriptValue.read kind v <;> simp

theorem reading_eq_error_iff {kind : Kind} {v : ScriptValue} {found : String} :
    reading kind v = .error found ↔
      ∃ type, ScriptValue.read kind v = .error type ∧ found = type.name := by
  unfold reading
  cases ScriptValue.read kind v <;> simp [eq_comm]

theorem zipWith_reading_eq_iff {ds : List Datum} :
    List.zipWith reading kinds values = ds.map .ok ↔
      List.zipWith ScriptValue.read kinds values = ds.map .ok := by
  induction kinds generalizing values ds with
  | nil => cases ds <;> simp
  | cons kind kinds ih =>
    cases values with
    | nil => cases ds <;> simp
    | cons v values =>
      cases ds with
      | nil => simp
      | cons d ds => simp [reading_eq_ok_iff, ih]

theorem mismatch_reading_iff {n : Nat} {kind : Kind} {found : String} :
    Mismatch reading kinds values n kind found ↔
      ∃ type, Mismatch ScriptValue.read kinds values n kind type ∧ found = type.name := by
  constructor
  · rintro ⟨⟨a, hk, ha, h⟩, before⟩
    obtain ⟨type, read, rfl⟩ := reading_eq_error_iff.1 h
    refine ⟨type, ⟨⟨a, hk, ha, read⟩, fun j hj k b hk hb => ?_⟩, rfl⟩
    exact (before j hj k b hk hb).imp fun _ => reading_eq_ok_iff.1
  · rintro ⟨type, ⟨⟨a, hk, ha, h⟩, before⟩, rfl⟩
    refine ⟨⟨a, hk, ha, reading_eq_error_iff.2 ⟨type, h, rfl⟩⟩, fun j hj k b hk hb => ?_⟩
    exact (before j hj k b hk hb).imp fun _ => reading_eq_ok_iff.2

end Binding

/-! ## The gate -/

namespace Switchboard

variable {board : Switchboard} {target : CallTarget} {args : List ScriptValue} {i : Invocation}
  {fault : CallFault}

/-- What passes the gate, and as what invocation. -/
structure Admits (board : Switchboard) (target : CallTarget) (args : List ScriptValue)
    (i : Invocation) : Prop where
  published : (board.get? target.binding.name).isSome
  binding : i.binding = target.binding
  method : target.binding.roster.method? target.method = some i.signature
  arity : args.length = i.signature.arity
  reads : List.zipWith ScriptValue.read i.signature.params args = i.args.map .ok

theorem kinds_of_reads {kinds : List Kind} {ds : List Datum} (count : args.length = kinds.length)
    (reads : List.zipWith ScriptValue.read kinds args = ds.map .ok) :
    ds.map (·.kind) = kinds ∧ ∀ kind ∈ kinds, kind.isParameter = true := by
  induction kinds generalizing args ds with
  | nil => cases ds <;> simp_all
  | cons kind kinds ih =>
    cases args with
    | nil => simp at count
    | cons v args =>
      cases ds with
      | nil => simp at reads
      | cons d ds =>
        rw [List.zipWith_cons_cons, List.map_cons, List.cons.injEq] at reads
        obtain ⟨hkind, hparam⟩ := ScriptValue.kind_of_read reads.1
        obtain ⟨hkinds, hparams⟩ := ih (Nat.succ.inj count) reads.2
        exact ⟨by rw [List.map_cons, hkind, hkinds], List.forall_mem_cons.2 ⟨hparam, hparams⟩⟩

/-- Each argument of an invocation has the kind of its parameter, and that is one of the four that
may be passed. -/
theorem Admits.kinds (admits : board.Admits target args i) :
    i.args.map (·.kind) = i.signature.params ∧
      ∀ d ∈ i.args, d.kind ∈ [Kind.boolean, .int32, .double, .string] := by
  obtain ⟨kinds, params⟩ := kinds_of_reads admits.arity admits.reads
  refine ⟨kinds, fun d hd => ?_⟩
  have hparam := params d.kind (kinds ▸ List.mem_map_of_mem hd)
  cases d <;> simp_all [Datum.kind, Kind.isParameter]


/-- The check that a call fails first, and the fault that comes of it. -/
inductive Refuses (board : Switchboard) (target : CallTarget) (args : List ScriptValue) :
    CallFault → Prop
  | unknownGlobal (unpublished : board.get? target.binding.name = none) :
    Refuses board target args (.unknownGlobal target.binding.name)
  | unknownMethod (published : (board.get? target.binding.name).isSome)
      (missing : target.binding.roster.method? target.method = none) :
    Refuses board target args (.unknownMethod target.binding.name target.method)
  | arity {s} (published : (board.get? target.binding.name).isSome)
      (method : target.binding.roster.method? target.method = some s)
      (given : args.length ≠ s.arity) :
    Refuses board target args (.arity (target.binding.qualified s) s.arity args.length)
  | mismatch {s n kind type} (published : (board.get? target.binding.name).isSome)
      (method : target.binding.roster.method? target.method = some s)
      (given : args.length = s.arity)
      (first : Binding.Mismatch ScriptValue.read s.params args n kind type) :
    Refuses board target args (.mismatch (target.binding.qualified s) n kind type.name)

/-- What is not there is a matter of reference, and what does not fit a matter of type. -/
theorem Refuses.severity (refuses : board.Refuses target args fault) :
    fault.severity = if (board.get? target.binding.name).isSome ∧
      (target.binding.roster.method? target.method).isSome then .type else .reference := by
  cases refuses with
  | unknownGlobal unpublished => simp [unpublished, CallFault.severity]
  | unknownMethod _ missing => simp [missing, CallFault.severity]
  | arity published method | mismatch published method =>
    simp [published, method, CallFault.severity]

theorem route_of_published (published : (board.get? target.binding.name).isSome) :
    board.route target args = target.binding.scriptInvocation target.method args := by
  unfold route
  rw [(resolve_eq_some_iff board target _).2 ⟨rfl, published⟩]

theorem route_of_unpublished (unpublished : board.get? target.binding.name = none) :
    board.route target args = .error (.unknownGlobal target.binding.name) := by
  unfold route resolve
  rw [unpublished]
  rfl

theorem route_eq_ok_iff : board.route target args = .ok i ↔ board.Admits target args i := by
  cases hp : board.get? target.binding.name with
  | none =>
    rw [route_of_unpublished hp]
    refine iff_of_false nofun fun h => ?_
    have := h.published
    rw [hp] at this
    cases this
  | some c =>
    have published : (board.get? target.binding.name).isSome := Option.isSome_of_eq_some hp
    rw [route_of_published published, Binding.scriptInvocation_eq, Binding.invocationBy_eq_ok_iff,
      Binding.zipWith_reading_eq_iff]
    exact ⟨fun ⟨hb, hm, hg, hz⟩ => ⟨published, hb, hm, hg, hz⟩,
      fun h => ⟨h.binding, h.method, h.arity, h.reads⟩⟩

theorem route_eq_error_iff :
    board.route target args = .error fault ↔ board.Refuses target args fault := by
  cases hp : board.get? target.binding.name with
  | none =>
    rw [route_of_unpublished hp]
    constructor
    · intro h
      exact Except.error.inj h ▸ .unknownGlobal hp
    · intro h
      cases h with
      | unknownGlobal => rfl
      | unknownMethod published | arity published | mismatch published => simp [hp] at published
  | some c =>
    have published : (board.get? target.binding.name).isSome := Option.isSome_of_eq_some hp
    rw [route_of_published published, Binding.scriptInvocation_eq,
      Binding.invocationBy_eq_error_iff]
    constructor
    · rintro (⟨hm, rfl⟩ | ⟨s, hm, ⟨hg, rfl⟩ | ⟨hg, n, kind, found, first, rfl⟩⟩)
      · exact .unknownMethod published hm
      · exact .arity published hm hg
      · obtain ⟨type, read, rfl⟩ := Binding.mismatch_reading_iff.1 first
        exact .mismatch published hm hg read
    · intro h
      cases h with
      | unknownGlobal unpublished => simp [unpublished] at published
      | unknownMethod _ missing => exact Or.inl ⟨missing, rfl⟩
      | arity _ method given => exact Or.inr ⟨_, method, Or.inl ⟨given, rfl⟩⟩
      | mismatch _ method given first =>
        exact Or.inr ⟨_, method, Or.inr ⟨given, _, _, _,
          Binding.mismatch_reading_iff.2 ⟨_, first, rfl⟩, rfl⟩⟩

/-- The gate admits a call or refuses it, and not both. -/
theorem admits_or_refuses (board : Switchboard) (target : CallTarget) (args : List ScriptValue) :
    (∃ i, board.Admits target args i ∧ ∀ fault, ¬ board.Refuses target args fault) ∨
      ∃ fault, board.Refuses target args fault ∧ ∀ i, ¬ board.Admits target args i := by
  simp only [← route_eq_ok_iff, ← route_eq_error_iff]
  cases board.route target args <;> simp

end Switchboard

end Drawbridge
