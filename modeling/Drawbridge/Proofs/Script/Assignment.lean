import Drawbridge.Script.Access
import Mathlib.Tactic.SplitIfs

/-!
# Assignments

What `put` does where no accessor is on the way.  Where a property of an ordinary object is depends
on the keys alone (`Object.place?_eq`), so that a key leads to what was inserted under it last
(`Object.find?_insert`).  An assignment to an object that takes it changes this property of this
object and nothing else (`Exec.put_of_takes`).
-/

namespace Drawbridge.Script

/-! ## Properties of ordinary objects -/

/-- Where a key is among others. -/
def placeAmong (keys : Array Key) (k : Key) : Option Nat :=
  match k.index? with
  | some n => if keys[n + 1]? = some k then some (n + 1) else keys.findIdx? (· == k)
  | none => keys.findIdx? (· == k)

section Place

variable {keys : Array Key} {k k' : Key} {i : Nat}

theorem getElem?_of_placeAmong (h : placeAmong keys k = some i) : keys[i]? = some k := by
  have first (h : keys.findIdx? (· == k) = some i) : keys[i]? = some k := by
    obtain ⟨lt, eq, -⟩ := Array.findIdx?_eq_some_iff_getElem.1 h
    rw [Array.getElem?_eq_getElem lt, eq_of_beq eq]
  unfold placeAmong at h
  split at h
  · split_ifs at h with direct
    · exact Option.some.inj h ▸ direct
    · exact first h
  · exact first h

theorem placeAmong_eq_none_iff : placeAmong keys k = none ↔ k ∉ keys := by
  have none_iff : keys.findIdx? (· == k) = none ↔ k ∉ keys := by
    rw [Array.findIdx?_eq_none_iff]
    exact ⟨fun h hm => by simpa using h k hm, fun h x hx => by
      simpa using fun e : x = k => h (e ▸ hx)⟩
  unfold placeAmong
  split
  · split_ifs with direct
    · exact iff_of_false nofun fun h => h (Array.mem_of_getElem? direct)
    · exact none_iff
  · exact none_iff

/-- A new key at the end leaves the others where they are. -/
theorem placeAmong_push (hne : k ≠ k') : placeAmong (keys.push k') k = placeAmong keys k := by
  have found : (keys.push k').findIdx? (· == k) = keys.findIdx? (· == k) := by
    rw [Array.findIdx?_push, if_neg (by simpa using Ne.symm hne), Option.or_none]
  have direct (n : Nat) : (keys.push k')[n]? = some k ↔ keys[n]? = some k := by
    rw [Array.getElem?_push]
    split_ifs with last
    · rw [last, Array.getElem?_eq_none (Nat.le_refl _)]
      simp [Ne.symm hne]
    · rfl
  simp only [placeAmong, found, direct]

theorem placeAmong_push_self (h : k ∉ keys) : placeAmong (keys.push k) k = some keys.size := by
  cases found : placeAmong (keys.push k) k with
  | none => exact absurd (Array.mem_push_self ..) (placeAmong_eq_none_iff.1 found)
  | some i =>
    have at_i := getElem?_of_placeAmong found
    rw [Array.getElem?_push] at at_i
    split_ifs at at_i with last
    · rw [last]
    · exact absurd (Array.mem_of_getElem? at_i) h

end Place

namespace Object

variable {o : Object} {k k' : Key} {p : Property}

theorem arrayLength?_of_plain (plain : o.nature = .plain) : o.arrayLength? = none := by
  unfold arrayLength?
  simp only [plain]

theorem own?_of_plain (plain : o.nature = .plain) : o.own? k = o.find? k := by
  unfold own? wrappedText?
  simp only [plain]

theorem place?_eq (plain : o.nature = .plain) :
    o.place? k = placeAmong (o.properties.map Prod.fst) k := by
  have direct (n : Nat) : (o.properties[n]?).any (fun q => q.1 == k) = true ↔
      (o.properties.map Prod.fst)[n]? = some k := by
    rw [Array.getElem?_map]
    cases o.properties[n]? <;> simp
  unfold place? placeAmong
  simp only [direct, arrayLength?_of_plain plain, Array.findIdx?_map]
  rfl

theorem insert_eq : o.insert k p = { o with properties := (o.insert k p).properties } := by
  unfold insert
  split <;> rfl

theorem nature_insert : (o.insert k p).nature = o.nature := by rw [insert_eq]

/-- A property in the place of one of the same key leaves the keys as they are. -/
theorem map_fst_setIfInBounds {properties : Array (Key × Property)} {i : Nat}
    (h : (properties.map Prod.fst)[i]? = some k) :
    (properties.setIfInBounds i (k, p)).map Prod.fst = properties.map Prod.fst := by
  rw [Array.map_setIfInBounds]
  refine Array.ext_getElem? fun j => ?_
  rw [Array.getElem?_setIfInBounds]
  split_ifs with hij hlt
  · rw [← hij, h]
  · rw [← hij, Array.getElem?_eq_none (Nat.not_lt.1 hlt)]
  · rfl

theorem find?_eq (plain : o.nature = .plain) :
    o.find? k = (placeAmong (o.properties.map Prod.fst) k).bind
      fun i => (o.properties[i]?).map Prod.snd := by
  rw [← place?_eq plain]
  rfl

theorem find?_insert_of_new (plain : o.nature = .plain)
    (new : placeAmong (o.properties.map Prod.fst) k = none) :
    (o.insert k p).find? k' = if k' = k then some p else o.find? k' := by
  have pushed : (o.insert k p).properties = o.properties.push (k, p) := by
    rw [insert, place?_eq plain, new]
  rw [find?_eq (nature_insert.trans plain), find?_eq plain, pushed, Array.map_push]
  split_ifs with hk
  · subst hk
    rw [placeAmong_push_self (placeAmong_eq_none_iff.1 new), Array.size_map, Option.bind_some,
      Array.getElem?_push_size]
    rfl
  · rw [placeAmong_push hk]
    refine Option.bind_congr fun i hi => ?_
    have hlt := (Array.getElem?_eq_some_iff.1 (getElem?_of_placeAmong hi)).1
    rw [Array.size_map] at hlt
    rw [Array.getElem?_push_lt hlt, Array.getElem?_eq_getElem hlt]

theorem find?_insert_of_old {i : Nat} (plain : o.nature = .plain)
    (old : placeAmong (o.properties.map Prod.fst) k = some i) :
    (o.insert k p).find? k' = if k' = k then some p else o.find? k' := by
  have replaced : (o.insert k p).properties = o.properties.setIfInBounds i (k, p) := by
    rw [insert, place?_eq plain, old]
    rfl
  have at_i := getElem?_of_placeAmong old
  rw [find?_eq (nature_insert.trans plain), find?_eq plain, replaced, map_fst_setIfInBounds at_i]
  split_ifs with hk
  · subst hk
    have hlt := (Array.getElem?_eq_some_iff.1 at_i).1
    rw [Array.size_map] at hlt
    rw [old, Option.bind_some, Array.getElem?_setIfInBounds_self_of_lt hlt]
    rfl
  · refine Option.bind_congr fun j hj => ?_
    have hij : i ≠ j := by
      rintro rfl
      exact hk (Option.some.inj ((getElem?_of_placeAmong hj).symm.trans at_i))
    rw [Array.getElem?_setIfInBounds_ne hij]

/-- A key leads to what was inserted under it last. -/
theorem find?_insert (plain : o.nature = .plain) :
    (o.insert k p).find? k' = if k' = k then some p else o.find? k' := by
  cases h : placeAmong (o.properties.map Prod.fst) k with
  | none => exact find?_insert_of_new plain h
  | some i => exact find?_insert_of_old plain h

theorem define_of_plain (plain : o.nature = .plain) : o.define k p = o.insert k p := by
  unfold define
  simp only [arrayLength?_of_plain (nature_insert.trans plain)]
  split <;> rfl

theorem closedTo?_of_plain (plain : o.nature = .plain) (extensible : o.extensible = true) :
    o.closedTo? k = none := by
  unfold closedTo?
  simp only [extensible, arrayLength?_of_plain plain]
  split <;> simp_all

end Object

/-! ## Objects of the machine -/

/-- The property holds a value that may be assigned to. -/
def Property.Writable (p : Property) : Prop := ∃ v, p.content = .data v true

instance : DecidablePred Property.Writable := fun p =>
  match h : p.content with
  | .data v true => isTrue ⟨v, h⟩
  | .data _ false | .accessor _ _ => isFalse fun ⟨_, e⟩ => nomatch h.symm.trans e

instance (o : Object) : Decidable (o.nature = .plain) :=
  match o.nature with
  | .plain => isTrue rfl
  | .array | .walk _ | .error | .closure _ | .builtIn _ | .proxy _ | .wrapper _ | .date _
  | .promise => isFalse nofun

namespace Machine

variable {m : Machine} {r s : Ref} {k : Key} {p : Property}

theorem object_alloc_self (m : Machine) (o : Object) : (m.alloc o).2.object (m.alloc o).1 = o := by
  simp [alloc, object]

theorem object_alloc_of_lt (m : Machine) (o : Object) (h : r.index < m.objects.size) :
    (m.alloc o).2.object r = m.object r := by
  simp [alloc, object, Array.getD_eq_getD_getElem?, Array.getElem?_push_lt, h]

theorem size_alloc (m : Machine) (o : Object) :
    (m.alloc o).2.objects.size = m.objects.size + 1 :=
  Array.size_push ..

theorem object_modifyObject (here : r.index < m.objects.size) (f : Object → Object) :
    (m.modifyObject r f).object s = if s = r then f (m.object s) else m.object s := by
  obtain ⟨i⟩ := r
  obtain ⟨j⟩ := s
  unfold modifyObject object
  rw [Array.getD_eq_getD_getElem?, Array.getD_eq_getD_getElem?, Array.getElem?_modify]
  by_cases h : j = i
  · subst h
    rw [if_pos rfl, if_pos rfl, Array.getElem?_eq_getElem here]
    rfl
  · rw [if_neg (Ne.symm h), if_neg fun e => h (Ref.mk.inj e)]

theorem modifyObject_congr {f g : Object → Object} (h : f (m.object r) = g (m.object r)) :
    m.modifyObject r f = m.modifyObject r g := by
  have same : m.objects.modify r.index f = m.objects.modify r.index g := by
    refine Array.ext_getElem? fun i => ?_
    rw [Array.getElem?_modify, Array.getElem?_modify]
    split_ifs with hi
    · subst hi
      unfold object at h
      cases found : m.objects[r.index]? with
      | none => rfl
      | some o =>
        rw [Array.getD_eq_getD_getElem?, found] at h
        exact congrArg some h
    · rfl
  unfold modifyObject
  rw [same]

theorem size_modifyObject (f : Object → Object) :
    (m.modifyObject r f).objects.size = m.objects.size :=
  Array.size_modify

/-- Nothing that ordinary objects inherit is in the way of a property of their own. -/
structure Overrides (m : Machine) (k : Key) : Prop where
  top : (m.object Intrinsic.objectProto.ref).proto = none
  writable : ∀ p, (m.object Intrinsic.objectProto.ref).own? k = some p → p.Writable

instance (m : Machine) (k : Key) : Decidable (m.Overrides k) :=
  decidable_of_iff
    ((m.object Intrinsic.objectProto.ref).proto = none ∧
      ∀ p ∈ (m.object Intrinsic.objectProto.ref).own? k, p.Writable)
    ⟨fun h => ⟨h.1, h.2⟩, fun h => ⟨h.top, h.writable⟩⟩

/-- An ordinary object that an assignment adds the property to. -/
structure Adds (m : Machine) (r : Ref) (k : Key) : Prop extends m.Overrides k where
  extensible : (m.object r).extensible = true
  proto : (m.object r).proto = some Intrinsic.objectProto.ref
  new : (m.object r).find? k = none

instance (m : Machine) (r : Ref) (k : Key) : Decidable (m.Adds r k) :=
  decidable_of_iff
    (m.Overrides k ∧ (m.object r).extensible = true ∧
      (m.object r).proto = some Intrinsic.objectProto.ref ∧ (m.object r).find? k = none)
    ⟨fun h => ⟨h.1, h.2.1, h.2.2.1, h.2.2.2⟩,
      fun h => ⟨h.toOverrides, h.extensible, h.proto, h.new⟩⟩

/-- An ordinary object takes an assignment: it has the property, or gets it. -/
structure Takes (m : Machine) (r : Ref) (k : Key) : Prop where
  here : r.index < m.objects.size
  plain : (m.object r).nature = .plain
  free : (∃ p, (m.object r).find? k = some p ∧ p.Writable) ∨ m.Adds r k

instance (m : Machine) (r : Ref) (k : Key) : Decidable (m.Takes r k) :=
  decidable_of_iff
    (r.index < m.objects.size ∧ (m.object r).nature = .plain ∧
      ((∃ p ∈ (m.object r).find? k, p.Writable) ∨ m.Adds r k))
    ⟨fun h => ⟨h.1, h.2.1, h.2.2⟩, fun h => ⟨h.here, h.plain, h.free⟩⟩

/-- What an object takes depends on itself and the prototype of ordinary objects. -/
theorem Takes.of_object_eq {m' : Machine} (takes : m.Takes r k)
    (grows : m.objects.size ≤ m'.objects.size) (same : m'.object r = m.object r)
    (above : m'.object Intrinsic.objectProto.ref = m.object Intrinsic.objectProto.ref) :
    m'.Takes r k where
  here := Nat.lt_of_lt_of_le takes.here grows
  plain := same ▸ takes.plain
  free := by
    rw [same]
    refine takes.free.imp_right fun adds => ⟨⟨?_, ?_⟩, ?_, ?_, ?_⟩
    · exact above ▸ adds.top
    · exact above ▸ adds.writable
    · exact same ▸ adds.extensible
    · exact same ▸ adds.proto
    · exact same ▸ adds.new

/-- The object has the value as a property of its own. -/
def Has (m : Machine) (r : Ref) (k : Key) (x : Value) : Prop :=
  ∃ p, (m.object r).find? k = some p ∧ p.content = .data x true

/-- `m'` is `m` with a property of an ordinary object set. -/
structure Assigned (m m' : Machine) (r : Ref) (k : Key) (x : Value) : Prop where
  size : m'.objects.size = m.objects.size
  has : m'.Has r k x
  others : ∀ k', k' ≠ k → (m'.object r).find? k' = (m.object r).find? k'
  nature : (m'.object r).nature = (m.object r).nature
  proto : (m'.object r).proto = (m.object r).proto
  extensible : (m'.object r).extensible = (m.object r).extensible
  rest : ∀ s, s ≠ r → m'.object s = m.object s

theorem assigned_insert {x : Value} (here : r.index < m.objects.size)
    (plain : (m.object r).nature = .plain) (data : p.content = .data x true) :
    m.Assigned (m.modifyObject r (·.insert k p)) r k x := by
  have self : (m.modifyObject r (·.insert k p)).object r = (m.object r).insert k p := by
    rw [object_modifyObject here, if_pos rfl]
  refine ⟨size_modifyObject _, ⟨p, ?_, data⟩, fun k' hk => ?_, ?_, ?_, ?_, fun s hs => ?_⟩
  · rw [self, Object.find?_insert plain, if_pos rfl]
  · rw [self, Object.find?_insert plain, if_neg hk]
  · rw [self, Object.insert_eq]
  · rw [self, Object.insert_eq]
  · rw [self, Object.insert_eq]
  · rw [object_modifyObject here, if_neg hs]

theorem lookup_of_find? (plain : (m.object r).nature = .plain) (h : (m.object r).find? k = some p) :
    m.lookup r k = some (r, p) := by
  rw [← Object.own?_of_plain plain] at h
  unfold lookup lookupFrom
  simp only [h]

theorem lookup_of_adds (here : r.index < m.objects.size) (plain : (m.object r).nature = .plain)
    (adds : m.Adds r k) :
    m.lookup r k = ((m.object Intrinsic.objectProto.ref).own? k).map
      fun p => (Intrinsic.objectProto.ref, p) := by
  have new := adds.new
  rw [← Object.own?_of_plain plain] at new
  obtain ⟨n, hn⟩ : ∃ n, m.objects.size = n + 1 := ⟨m.objects.size - 1, by omega⟩
  unfold lookup
  rw [hn, lookupFrom, new, adds.proto]
  simp only
  rw [lookupFrom, adds.top]
  cases (m.object Intrinsic.objectProto.ref).own? k <;> rfl

end Machine

namespace Exec

variable {α β : Type} {call : Call} {m m' : Machine}

theorem bind_of_done {x : Exec α} {a : α} (f : α → Exec β) (h : x call m = .done (.ok a) m') :
    (x >>= f) call m = f a call m' := by
  show (x call m).bind _ = _
  rw [h]
  rfl

theorem define_eq {r : Ref} {k : Key} {p : Property} (plain : (m.object r).nature = .plain) :
    define r k p call m = .done (.ok ()) (m.modifyObject r (·.insert k p)) := by
  rw [← Machine.modifyObject_congr (f := (·.define k p)) (Object.define_of_plain plain)]
  rfl

/-- An assignment that an object takes sets this property of this object. -/
theorem put_of_takes {r : Ref} {k : Key} (x : Value) (takes : m.Takes r k) (call : Call) :
    ∃ m', put (.object r) k x true call m = .done (.ok ()) m' ∧ m.Assigned m' r k x := by
  have length : (m.object r).arrayLength? = none := Object.arrayLength?_of_plain takes.plain
  unfold put
  simp only [protoOf?]
  rw [bind_of_done _ (show Exec.read _ call m = .done (.ok _) m from rfl)]
  simp only [length, Option.isSome_none, Bool.and_false, Bool.false_eq_true, if_false]
  rw [bind_of_done _ (show Exec.read _ call m = .done (.ok _) m from rfl)]
  rcases takes.free with ⟨⟨content, e, c⟩, found, v, rfl⟩ | adds
  · refine ⟨_, ?_, Machine.assigned_insert (p := ⟨.data x true, e, c⟩) takes.here takes.plain rfl⟩
    have setting : define r k ⟨.data x true, e, c⟩ call m = _ := define_eq takes.plain
    rw [Machine.lookup_of_find? takes.plain found, ← setting]
    simp [Value.isObject]
  · have proto := adds.proto
    have closed := Object.closedTo?_of_plain (k := k) takes.plain adds.extensible
    have adding : addProperty r k (.plain x) true call m
        = .done (.ok ()) (m.modifyObject r (·.insert k (.plain x))) := by
      unfold addProperty
      rw [bind_of_done _ (show Exec.read _ call m = .done (.ok _) m from rfl), closed]
      exact define_eq takes.plain
    refine ⟨_, ?_, Machine.assigned_insert (p := .plain x) takes.here takes.plain rfl⟩
    rw [Machine.lookup_of_adds takes.here takes.plain adds, ← adding]
    cases inherited : (m.object Intrinsic.objectProto.ref).own? k with
    | none => rfl
    | some p =>
      obtain ⟨content, e, c⟩ := p
      obtain ⟨v, rfl⟩ := adds.writable _ inherited
      have ne : Intrinsic.objectProto.ref ≠ r := by
        rintro rfl
        rw [adds.top] at proto
        cases proto
      simp [Value.isObject, ne]

end Exec

end Drawbridge.Script
