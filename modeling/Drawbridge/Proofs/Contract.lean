import Drawbridge.Contract
import Mathlib.Tactic.SplitIfs

/-!
# Accepted contracts

A contract that passes its check has only methods whose kinds the bridge supports
(`supported_of_check`): parameters of the four kinds of arguments, and results of these or none.  No
two of them have the same name (`distinct_of_check`).
-/

namespace Drawbridge

/-- The kinds of a method are those that cross the bridge. -/
structure Signature.Supported (s : Signature) : Prop where
  params : ∀ kind ∈ s.params, kind.isParameter = true
  result : s.result.isResult = true

theorem Signature.checkKinds_eq_ok_iff {s : Signature} : s.checkKinds = .ok () ↔ s.Supported := by
  unfold Signature.checkKinds
  cases hr : s.result.isResult with
  | false => exact iff_of_false nofun fun h => by simp [h.result] at hr
  | true =>
    cases hp : s.params.find? fun kind => !kind.isParameter with
    | none =>
      refine iff_of_true rfl ⟨fun kind hk => ?_, hr⟩
      simpa using List.find?_eq_none.1 hp kind hk
    | some kind =>
      refine iff_of_false nofun fun h => ?_
      have hk := List.find?_some hp
      rw [h.params kind (List.mem_of_find?_eq_some hp)] at hk
      cases hk

namespace Contract

/-! ## The methods -/

variable {contract : String} {seen : List String} {m : Signature} {rest methods : List Signature}

/-- What is done with the first of the methods. -/
theorem checkMethods_cons :
    checkMethods contract seen (m :: rest) =
      match m.checkKinds with
      | .error refusal => .error refusal
      | .ok () =>
        if m.name ∈ seen then .error (.overloaded contract m.name)
        else checkMethods contract (m.name :: seen) rest := by
  rw [checkMethods]
  simp only [List.contains_iff_mem]
  cases m.checkKinds <;> rfl

theorem checkMethods_cons_eq_ok_iff :
    checkMethods contract seen (m :: rest) = .ok () ↔
      m.Supported ∧ m.name ∉ seen ∧ checkMethods contract (m.name :: seen) rest = .ok () := by
  rw [← Signature.checkKinds_eq_ok_iff, checkMethods_cons]
  cases m.checkKinds with
  | error refusal => simp
  | ok => by_cases again : m.name ∈ seen <;> simp [again]

/-- Methods pass if they are supported and no name comes twice. -/
theorem checkMethods_eq_ok_iff :
    checkMethods contract seen methods = .ok () ↔
      (∀ s ∈ methods, s.Supported) ∧ (methods.map (·.name)).Nodup ∧ ∀ s ∈ methods, s.name ∉ seen := by
  induction methods generalizing seen with
  | nil => simp [checkMethods]
  | cons m rest ih =>
    rw [checkMethods_cons_eq_ok_iff, ih, List.forall_mem_cons, List.forall_mem_cons]
    simp only [List.map_cons, List.nodup_cons, List.mem_map, List.mem_cons, not_exists, not_and,
      not_or]
    constructor
    · rintro ⟨supported, unseen, rest_supported, distinct, new⟩
      exact ⟨⟨supported, rest_supported⟩, ⟨fun s hs => (new s hs).1, distinct⟩, unseen,
        fun s hs => (new s hs).2⟩
    · rintro ⟨⟨supported, rest_supported⟩, ⟨fresh, distinct⟩, unseen, new⟩
      exact ⟨supported, unseen, rest_supported, distinct, fun s hs => ⟨fresh s hs, new s hs⟩⟩

/-! ## The check -/

/-- An interface that extends nothing and that the object implements in full. -/
structure Satisfied (c : Contract) (object : Facets) : Prop where
  interface : c.isClass = false
  flat : c.supertypes = []
  implements : object.implements c.name = true
  responds : ∀ m ∈ c.methods, object.respondsTo m.name = true

variable {c : Contract} {object : Facets} {roster : Roster}

/-- Of a contract that is satisfied, the methods are looked at. -/
theorem Satisfied.check_eq (satisfied : c.Satisfied object) :
    c.check object = (fun _ => ⟨c.name, c.methods⟩) <$> checkMethods c.name [] c.methods := by
  have found : (c.methods.find? fun m => !object.respondsTo m.name) = none := by
    simpa using satisfied.responds
  simp only [check, satisfied.interface, satisfied.flat, satisfied.implements, found]
  cases checkMethods c.name [] c.methods <;> rfl

theorem satisfied_of_check (h : c.check object = .ok roster) : c.Satisfied object := by
  unfold check at h
  split_ifs at h with isClass flat implements
  split at h
  · cases h
  · next found =>
    exact ⟨by simpa using isClass, by simpa using flat, by simpa using implements,
      by simpa using found⟩

/-- The roster of an accepted contract has the methods of the contract, which passed the check. -/
theorem checkMethods_of_check (h : c.check object = .ok roster) :
    roster = ⟨c.name, c.methods⟩ ∧ checkMethods c.name [] c.methods = .ok () := by
  rw [(satisfied_of_check h).check_eq] at h
  cases hm : checkMethods c.name [] c.methods with
  | error refusal =>
    rw [hm] at h
    cases h
  | ok =>
    rw [hm] at h
    exact ⟨(Except.ok.inj h).symm, rfl⟩

/-- The methods of an accepted contract are all supported. -/
theorem supported_of_check (h : c.check object = .ok roster) : ∀ s ∈ roster.methods, s.Supported := by
  obtain ⟨rfl, passed⟩ := checkMethods_of_check h
  exact (checkMethods_eq_ok_iff.1 passed).1

/-- No two methods of an accepted contract have the same name. -/
theorem distinct_of_check (h : c.check object = .ok roster) : (roster.methods.map (·.name)).Nodup := by
  obtain ⟨rfl, passed⟩ := checkMethods_of_check h
  exact (checkMethods_eq_ok_iff.1 passed).2.1

end Contract

end Drawbridge
