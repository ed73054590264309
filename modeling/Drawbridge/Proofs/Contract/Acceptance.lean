import Drawbridge.Proofs.Contract
import Mathlib.Data.List.Nodup

/-!
# Which contracts are accepted

A contract is accepted just if it is `Bindable`: an interface on its own, which the object satisfies,
with methods over primitives and no name given twice (`check_eq_ok_iff`).  The roster of an accepted
contract is the contract's own list of methods, in which names and places determine each other
(`indexOf?_eq_some_iff`).
-/

namespace Drawbridge

/-! ## Kinds -/

/-- The kinds of values that cross the bridge. -/
def Kind.primitives : List Kind := [.boolean, .int32, .double, .string]

theorem Kind.isParameter_iff {kind : Kind} : kind.isParameter = true ↔ kind ∈ primitives := by
  cases kind <;> simp [isParameter, primitives]

theorem Kind.isResult_iff {kind : Kind} :
    kind.isResult = true ↔ kind = .void ∨ kind ∈ primitives := by
  cases kind <;> simp [isResult, primitives]

theorem Signature.supported_iff {s : Signature} :
    s.Supported ↔
      (s.result = .void ∨ s.result ∈ Kind.primitives) ∧ ∀ kind ∈ s.params, kind ∈ Kind.primitives := by
  rw [← Kind.isResult_iff]
  simp only [← Kind.isParameter_iff]
  exact ⟨fun h => ⟨h.result, h.params⟩, fun h => ⟨h.2, h.1⟩⟩

namespace Contract

/-! ## Acceptance -/

/-- An object satisfies a contract, which declares only what the bridge supports and no name
twice. -/
structure Bindable (c : Contract) (object : Facets) : Prop extends c.Satisfied object where
  results : ∀ m ∈ c.methods, m.result = .void ∨ m.result ∈ Kind.primitives
  params : ∀ m ∈ c.methods, ∀ kind ∈ m.params, kind ∈ Kind.primitives
  distinct : (c.methods.map (·.name)).Nodup

theorem bindable_iff {c : Contract} {object : Facets} :
    c.Bindable object ↔
      c.Satisfied object ∧ (∀ m ∈ c.methods, m.Supported) ∧ (c.methods.map (·.name)).Nodup := by
  simp only [Signature.supported_iff]
  constructor
  · intro h
    exact ⟨h.toSatisfied, fun m hm => ⟨h.results m hm, h.params m hm⟩, h.distinct⟩
  · rintro ⟨satisfied, supported, distinct⟩
    exact ⟨satisfied, fun m hm => (supported m hm).1, fun m hm => (supported m hm).2, distinct⟩

theorem check_eq_ok_iff {c : Contract} {object : Facets} {roster : Roster} :
    c.check object = .ok roster ↔ c.Bindable object ∧ roster = ⟨c.name, c.methods⟩ := by
  rw [bindable_iff]
  constructor
  · intro h
    obtain ⟨rfl, passed⟩ := checkMethods_of_check h
    obtain ⟨supported, distinct, -⟩ := checkMethods_eq_ok_iff.1 passed
    exact ⟨⟨satisfied_of_check h, supported, distinct⟩, rfl⟩
  · rintro ⟨⟨satisfied, supported, distinct⟩, rfl⟩
    have passed : checkMethods c.name [] c.methods = .ok () :=
      checkMethods_eq_ok_iff.2 ⟨supported, distinct, fun _ _ => List.not_mem_nil⟩
    rw [satisfied.check_eq, passed]
    rfl

end Contract

/-! ## Names and places -/

namespace Roster

theorem method?_eq_none_iff {r : Roster} {i : Nat} : r.method? i = none ↔ r.size ≤ i :=
  List.getElem?_eq_none_iff

/-- Where no name is given twice, the place of a name is that of the one method it names. -/
theorem indexOf?_eq_some_iff {r : Roster} (distinct : (r.methods.map (·.name)).Nodup) {name : String}
    {i : Nat} : r.indexOf? name = some i ↔ ∃ m, r.method? i = some m ∧ m.name = name := by
  unfold indexOf? method?
  rw [List.findIdx?_eq_some_iff_getElem]
  constructor
  · rintro ⟨hi, named, -⟩
    exact ⟨r.methods[i], List.getElem?_eq_getElem hi, by simpa using named⟩
  · rintro ⟨m, hm, rfl⟩
    obtain ⟨hi, rfl⟩ := List.getElem?_eq_some_iff.1 hm
    refine ⟨hi, by simp, fun j hj => ?_⟩
    have apart := List.nodup_iff_getElem?_ne_getElem?.1 distinct j i hj (by simpa using hi)
    simpa [hi, Nat.lt_trans hj hi] using apart

end Roster

namespace Contract

/-- The check accepts what is bindable and nothing else.  It gives the methods as they were declared,
and in these names and places are inverse to each other. -/
theorem check_faithful (c : Contract) (object : Facets) :
    ((∃ roster, c.check object = .ok roster) ↔ c.Bindable object) ∧
    ∀ roster, c.check object = .ok roster →
      roster.contract = c.name ∧ roster.methods = c.methods ∧
      (∀ i < roster.size, ∃ m, roster.method? i = some m ∧ roster.indexOf? m.name = some i) ∧
      (∀ name i, roster.indexOf? name = some i → ∃ m, roster.method? i = some m ∧ m.name = name) ∧
      ∀ i, roster.size ≤ i → roster.method? i = none := by
  constructor
  · simp [check_eq_ok_iff]
  · intro roster accepted
    have distinct := distinct_of_check accepted
    obtain ⟨-, rfl⟩ := check_eq_ok_iff.1 accepted
    refine ⟨rfl, rfl, fun i hi => ?_, fun name i => (Roster.indexOf?_eq_some_iff distinct).1,
      fun i => Roster.method?_eq_none_iff.2⟩
    obtain ⟨m, hm⟩ : ∃ m, Roster.method? ⟨c.name, c.methods⟩ i = some m :=
      ⟨_, List.getElem?_eq_getElem hi⟩
    exact ⟨m, hm, (Roster.indexOf?_eq_some_iff distinct).2 ⟨m, hm, rfl⟩⟩

/-- A gate with two methods is accepted, and its methods stand at their places. -/
theorem check_faithful_gate :
    let gate : Contract :=
      ⟨"Gate", false, [], [⟨"open", [.int32, .string], .boolean⟩, ⟨"shut", [], .void⟩]⟩
    let object : Facets := ⟨(· == "Gate"), fun name => name == "open" || name == "shut"⟩
    let roster : Roster := ⟨"Gate", gate.methods⟩
    gate.Bindable object ∧ gate.check object = .ok roster ∧
      (∃ m, roster.method? 1 = some m ∧ roster.indexOf? m.name = some 1) ∧
      (∃ m, roster.method? 0 = some m ∧ m.name = "open") ∧ roster.method? 2 = none := by
  intro gate object roster
  have accepted : gate.check object = .ok roster := by rfl
  obtain ⟨-, -, places, names, beyond⟩ := (check_faithful gate object).2 roster accepted
  exact ⟨(check_faithful gate object).1.1 ⟨roster, accepted⟩, accepted, places 1 (by decide),
    names "open" 0 (by decide), beyond 2 (by decide)⟩

end Contract

end Drawbridge
