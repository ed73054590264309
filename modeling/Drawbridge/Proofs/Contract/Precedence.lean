import Drawbridge.Proofs.Contract.Acceptance

/-!
# Which refusal is given

A contract is to be checked in stages, each finished over all methods before the next one begins
(`staged`).  The check takes the last two of them, kinds and names, in one pass.  It gives the answer
of the stages unless a name comes again before the first method that is not supported
(`check_eq_staged_iff`).
-/

namespace Drawbridge

/-! ## Stages -/

/-- Why a method is not supported: for its result, or else for the first of its parameters. -/
def Signature.unsupported? (s : Signature) : Option Refusal :=
  if s.result = .void ∨ s.result ∈ Kind.primitives then
    (s.params.find? (· ∉ Kind.primitives)).map (.unsupportedParameter s.name)
  else some (.unsupportedResult s.name s.result)

namespace Contract

/-- The first method that has a name given before, in the list or among `names`. -/
def repeated? : (names : List String) → List Signature → Option Signature
  | _, [] => none
  | names, m :: rest => if m.name ∈ names then some m else repeated? (m.name :: names) rest

/-- What each stage finds wrong. -/
def stages (c : Contract) (object : Facets) : List (Option Refusal) :=
  [if c.isClass then some (.notInterface c.name) else none,
    if c.supertypes = [] then none else some (.notFlat c.name c.supertypes),
    if object.implements c.name then none else some (.unsatisfied c.name none),
    (c.methods.find? fun m => !object.respondsTo m.name).map fun m => .unsatisfied c.name m.name,
    c.methods.findSome? Signature.unsupported?,
    (repeated? [] c.methods).map fun m => .overloaded c.name m.name]

/-- The answer that is due: the first stage to find something wrong decides. -/
def staged (c : Contract) (object : Facets) : Except Refusal Roster :=
  match (c.stages object).findSome? id with
  | some refusal => .error refusal
  | none => .ok ⟨c.name, c.methods⟩

/-- A name comes again, and only after that a method that is not supported. -/
def RepeatsFirst (names : List String) (methods : List Signature) : Prop :=
  ∃ before m after, methods = before ++ m :: after ∧ m.name ∈ names ++ before.map (·.name) ∧
    (∀ s ∈ before ++ [m], s.Supported) ∧ ∃ s ∈ after, ¬ s.Supported

end Contract

/-! ## One method -/

namespace Signature

theorem checkKinds_eq (s : Signature) :
    s.checkKinds = match s.unsupported? with | some refusal => .error refusal | none => .ok () := by
  have foreign : (fun kind : Kind => !kind.isParameter) = fun kind => decide (kind ∉ Kind.primitives) := by
    funext kind
    simp [← Kind.isParameter_iff]
  unfold checkKinds unsupported?
  rw [foreign]
  by_cases hr : s.result.isResult = true
  · rw [if_pos (Kind.isResult_iff.1 hr), hr]
    cases s.params.find? fun kind => decide (kind ∉ Kind.primitives) <;> rfl
  · rw [if_neg (mt Kind.isResult_iff.2 hr), Bool.eq_false_iff.2 hr]
    rfl

theorem unsupported?_eq_none_iff {s : Signature} : s.unsupported? = none ↔ s.Supported := by
  rw [← checkKinds_eq_ok_iff, checkKinds_eq]
  cases s.unsupported? <;> simp

/-- That a name is given twice is no fault of one method. -/
theorem unsupported?_ne_overloaded (s : Signature) (contract method : String) :
    s.unsupported? ≠ some (.overloaded contract method) := by
  unfold unsupported?
  split_ifs <;> simp

end Signature

namespace Contract

theorem findSome?_unsupported?_eq_none_iff {methods : List Signature} :
    methods.findSome? Signature.unsupported? = none ↔ ∀ s ∈ methods, s.Supported := by
  simp only [List.findSome?_eq_none_iff, Signature.unsupported?_eq_none_iff]

/-! ## One pass for two stages -/

variable {contract : String} {names : List String} {m : Signature} {rest methods : List Signature}

theorem checkMethods_unsupported {refusal : Refusal} (hm : m.unsupported? = some refusal) :
    checkMethods contract names (m :: rest) = .error refusal := by
  rw [checkMethods_cons, m.checkKinds_eq, hm]

theorem checkMethods_supported (hm : m.unsupported? = none) :
    checkMethods contract names (m :: rest) =
      if m.name ∈ names then .error (.overloaded contract m.name)
      else checkMethods contract (m.name :: names) rest := by
  rw [checkMethods_cons, m.checkKinds_eq, hm]

theorem repeatsFirst_cons :
    RepeatsFirst names (m :: rest) ↔
      m.Supported ∧ (m.name ∈ names ∧ (∃ s ∈ rest, ¬ s.Supported) ∨ RepeatsFirst (m.name :: names) rest) := by
  constructor
  · rintro ⟨_ | ⟨first, before⟩, n, after, h, again, supported, later⟩
    · obtain ⟨rfl, rfl⟩ := List.cons.inj h
      exact ⟨supported m (by simp), .inl ⟨by simpa using again, later⟩⟩
    · obtain ⟨rfl, rfl⟩ := List.cons.inj h
      rw [List.cons_append, List.forall_mem_cons] at supported
      refine ⟨supported.1, .inr ⟨before, n, after, rfl, ?_, supported.2, later⟩⟩
      simpa [or_left_comm] using again
  · rintro ⟨hm, ⟨again, later⟩ | ⟨before, n, after, rfl, again, supported, later⟩⟩
    · exact ⟨[], m, rest, rfl, by simpa using again, by simpa using hm, later⟩
    · refine ⟨m :: before, n, after, rfl, by simpa [or_left_comm] using again, ?_, later⟩
      rw [List.cons_append, List.forall_mem_cons]
      exact ⟨hm, supported⟩

/-- What the two stages find one after the other. -/
theorem checkMethods_of_not_repeatsFirst (contract : String) (h : ¬ RepeatsFirst names methods) :
    checkMethods contract names methods =
      match methods.findSome? Signature.unsupported?, repeated? names methods with
      | some refusal, _ => .error refusal
      | none, some m => .error (.overloaded contract m.name)
      | none, none => .ok () := by
  induction methods generalizing names with
  | nil => rfl
  | cons m rest ih =>
    rw [List.findSome?_cons, repeated?]
    cases hm : m.unsupported? with
    | some refusal => exact checkMethods_unsupported hm
    | none =>
      rw [repeatsFirst_cons, ← Signature.unsupported?_eq_none_iff] at h
      simp only [hm, true_and, not_or, not_and, not_exists, not_not] at h
      rw [checkMethods_supported hm]
      by_cases again : m.name ∈ names
      · -- the name that comes again is due, as every method after it is supported
        simp only [if_pos again, findSome?_unsupported?_eq_none_iff.2 (h.1 again)]
      · simp only [if_neg again, ih h.2]

/-- The second of the stages comes first. -/
theorem checkMethods_of_repeatsFirst (h : RepeatsFirst names methods) :
    ∃ m refusal, repeated? names methods = some m ∧
      methods.findSome? Signature.unsupported? = some refusal ∧
      checkMethods contract names methods = .error (.overloaded contract m.name) := by
  induction methods generalizing names with
  | nil => simp [RepeatsFirst] at h
  | cons m rest ih =>
    obtain ⟨supported, h⟩ := repeatsFirst_cons.1 h
    have hm := Signature.unsupported?_eq_none_iff.2 supported
    rw [List.findSome?_cons, repeated?, hm, checkMethods_supported hm]
    by_cases again : m.name ∈ names
    · have later : ∃ s ∈ rest, ¬ s.Supported := by
        rcases h with ⟨-, later⟩ | ⟨before, n, after, rfl, -, -, s, hs, hn⟩
        · exact later
        · exact ⟨s, by simp [hs], hn⟩
      cases hu : rest.findSome? Signature.unsupported? with
      | none =>
        obtain ⟨s, hs, hn⟩ := later
        exact absurd (findSome?_unsupported?_eq_none_iff.1 hu s hs) hn
      | some refusal => exact ⟨m, refusal, if_pos again, rfl, if_pos again⟩
    · rw [if_neg again, if_neg again]
      exact ih (h.resolve_left fun here => again here.1)

/-! ## The check and the stages -/

/-- Up to the methods' kinds and names, the check follows the stages. -/
theorem check_eq_staged_of_not_satisfied {c : Contract} {object : Facets}
    (h : ¬ c.Satisfied object) : c.check object = c.staged object := by
  unfold check staged stages
  cases interface : c.isClass with
  | true => rfl
  | false =>
    by_cases flat : c.supertypes = []
    · cases implements : object.implements c.name with
      | false => simp [flat]
      | true =>
        cases found : c.methods.find? fun m => !object.respondsTo m.name with
        | some m => simp [flat]
        | none => exact absurd ⟨interface, flat, implements, by simpa using found⟩ h
    · simp [flat]

theorem staged_of_satisfied {c : Contract} {object : Facets} (satisfied : c.Satisfied object) :
    c.staged object =
      match c.methods.findSome? Signature.unsupported?, repeated? [] c.methods with
      | some refusal, _ => .error refusal
      | none, some m => .error (.overloaded c.name m.name)
      | none, none => .ok ⟨c.name, c.methods⟩ := by
  have found : (c.methods.find? fun m => !object.respondsTo m.name) = none := by
    simpa using satisfied.responds
  simp only [staged, stages, satisfied.interface, satisfied.flat, satisfied.implements, found]
  cases c.methods.findSome? Signature.unsupported? <;> cases repeated? [] c.methods <;> rfl

/-- The check gives the answer of the stages, unless it gets as far as the methods and a name comes
again before the first method that is not supported.  Then it reports that name, and the answer of
the stages is the other method's refusal. -/
theorem check_eq_staged_iff (c : Contract) (object : Facets) :
    (c.check object = c.staged object ↔ ¬ (c.Satisfied object ∧ RepeatsFirst [] c.methods)) ∧
    (c.Satisfied object → RepeatsFirst [] c.methods →
      ∃ m refusal, repeated? [] c.methods = some m ∧
        c.methods.findSome? Signature.unsupported? = some refusal ∧
        c.check object = .error (.overloaded c.name m.name) ∧
        c.staged object = .error refusal) := by
  have hasty (satisfied : c.Satisfied object) (h : RepeatsFirst [] c.methods) :
      ∃ m refusal, repeated? [] c.methods = some m ∧
        c.methods.findSome? Signature.unsupported? = some refusal ∧
        c.check object = .error (.overloaded c.name m.name) ∧
        c.staged object = .error refusal := by
    obtain ⟨m, refusal, again, unsupported, checked⟩ := checkMethods_of_repeatsFirst h
    refine ⟨m, refusal, again, unsupported, ?_, ?_⟩
    · rw [satisfied.check_eq, checked]
      rfl
    · rw [staged_of_satisfied satisfied, unsupported]
  refine ⟨⟨?_, ?_⟩, hasty⟩
  · rintro same ⟨satisfied, h⟩
    obtain ⟨m, refusal, -, unsupported, checked, due⟩ := hasty satisfied h
    rw [checked, due, Except.error.injEq] at same
    obtain ⟨s, -, hs⟩ := List.exists_of_findSome?_eq_some unsupported
    exact s.unsupported?_ne_overloaded c.name m.name (same ▸ hs)
  · intro orderly
    by_cases satisfied : c.Satisfied object
    · have checked := checkMethods_of_not_repeatsFirst c.name
        fun h => orderly ⟨satisfied, h⟩
      rw [satisfied.check_eq, staged_of_satisfied satisfied, checked]
      cases c.methods.findSome? Signature.unsupported? <;> cases repeated? [] c.methods <;> rfl
    · exact check_eq_staged_of_not_satisfied satisfied

/-- A store whose `get` is given twice, and whose `put` takes what cannot be passed: the stages ask
for `put` to be refused, and the check refuses `get`. -/
theorem check_ne_staged_store :
    let store : Contract :=
      ⟨"Store", false, [], [⟨"get", [], .int32⟩, ⟨"get", [], .int32⟩, ⟨"put", [.other "long"], .void⟩]⟩
    let object : Facets := ⟨(· == "Store"), fun name => name == "get" || name == "put"⟩
    store.check object ≠ store.staged object ∧
      store.check object = .error (.overloaded "Store" "get") ∧
      store.staged object = .error (.unsupportedParameter "put" (.other "long")) := by
  intro store object
  have satisfied : store.Satisfied object := ⟨rfl, rfl, by decide, by decide⟩
  have h : RepeatsFirst [] store.methods := by
    refine ⟨[⟨"get", [], .int32⟩], ⟨"get", [], .int32⟩, [⟨"put", [.other "long"], .void⟩], rfl,
      by decide, ?_, _, List.mem_singleton_self _, ?_⟩
    · simp only [← Signature.unsupported?_eq_none_iff]
      decide
    · rw [← Signature.unsupported?_eq_none_iff]
      decide
  obtain ⟨departs, reports⟩ := check_eq_staged_iff store object
  obtain ⟨m, refusal, again, unsupported, checked, due⟩ := reports satisfied h
  obtain rfl : ⟨"get", [], .int32⟩ = m := Option.some.inj again
  obtain rfl : .unsupportedParameter "put" (.other "long") = refusal := Option.some.inj unsupported
  exact ⟨fun same => departs.1 same ⟨satisfied, h⟩, checked, due⟩

end Contract

end Drawbridge
