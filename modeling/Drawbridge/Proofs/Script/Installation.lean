import Drawbridge.Proofs.Script.Assignment
import Drawbridge.Proofs.Text.Utf16
import Drawbridge.Script.Engine

/-!
# Installed proxies

What `installProxy` makes of a binding on a machine that is open to it (`Receives`): the global of
its name is an object that has, under the name of each method, the function for the place of this
method (`Exec.installProxy_offers`).  The proxy is built one function after the other, and each step
keeps those made before (`Built.assign`).
-/

namespace Drawbridge.Script

variable {b : Binding}

theorem Key.ofString_inj {s t : String} : Key.ofString s = Key.ofString t ↔ s = t := by
  refine ⟨fun e => ?_, congrArg _⟩
  have same := congrArg Utf16.toString? (Key.text.inj e)
  rwa [Utf16.toString?_ofString, Utf16.toString?_ofString, Option.some.injEq] at same

/-- No accessor and nothing read-only is in the way of the proxy of a binding. -/
structure Machine.Receives (m : Machine) (b : Binding) : Prop where
  here : Intrinsic.objectProto.ref.index < m.objects.size
  methods : ∀ s ∈ b.roster.methods, m.Overrides (.ofString s.name)
  global : m.Takes Intrinsic.global.ref (.ofString b.name)

instance (m : Machine) (b : Binding) : Decidable (m.Receives b) :=
  decidable_of_iff
    (Intrinsic.objectProto.ref.index < m.objects.size ∧
      (∀ s ∈ b.roster.methods, m.Overrides (.ofString s.name)) ∧
      m.Takes Intrinsic.global.ref (.ofString b.name))
    ⟨fun h => ⟨h.1, h.2.1, h.2.2⟩, fun h => ⟨h.here, h.methods, h.global⟩⟩

/-- The global of the binding's name has, under the name of each method, the function for it. -/
def Machine.Offers (m : Machine) (b : Binding) : Prop :=
  ∃ proxy, m.Has Intrinsic.global.ref (.ofString b.name) (.object proxy) ∧
    ∀ index s, b.roster.method? index = some s → ∃ f,
      m.Has proxy (.ofString s.name) (.object f) ∧ (m.object f).nature = .proxy ⟨b, index⟩

/-! ## One function -/

/-- `m'` is `m` with a new object that has the functions made so far and nothing else. -/
structure Built (m : Machine) (b : Binding) (proxy : Ref) (made : List (Signature × Nat))
    (m' : Machine) : Prop where
  new : m.objects.size ≤ proxy.index
  here : proxy.index < m'.objects.size
  nature : (m'.object proxy).nature = .plain
  proto : (m'.object proxy).proto = some Intrinsic.objectProto.ref
  extensible : (m'.object proxy).extensible = true
  functions : ∀ q ∈ made, ∃ f, m'.Has proxy (.ofString q.1.name) (.object f) ∧
    f.index < m'.objects.size ∧ (m'.object f).nature = .proxy ⟨b, q.2⟩
  unset : ∀ k, (∀ q ∈ made, k ≠ .ofString q.1.name) → (m'.object proxy).find? k = none
  rest : ∀ s : Ref, s.index < m.objects.size → m'.object s = m.object s

variable {m m₁ : Machine} {proxy : Ref} {made : List (Signature × Nat)}

/-- An object as `newPlain` makes it. -/
def Object.ordinary : Object := ⟨some Intrinsic.objectProto.ref, true, #[], .plain⟩

theorem built_nil (m : Machine) (b : Binding) :
    Built m b (m.alloc .ordinary).1 [] (m.alloc .ordinary).2 := by
  have self := m.object_alloc_self .ordinary
  refine ⟨Nat.le_refl _, ?_, ?_, ?_, ?_, nofun, fun k _ => ?_, fun s hs => m.object_alloc_of_lt _ hs⟩
  · rw [m.size_alloc]
    exact Nat.lt_succ_self _
  · rw [self]
    rfl
  · rw [self]
    rfl
  · rw [self]
    rfl
  · rw [self, Object.find?_eq rfl, placeAmong_eq_none_iff.2 (by simp [Object.ordinary])]
    rfl

theorem Built.old (built : Built m b proxy made m₁) (o : Object) {s : Ref}
    (hs : s.index < m.objects.size) : (m₁.alloc o).2.object s = m.object s := by
  have grows := Nat.lt_of_le_of_lt built.new built.here
  rw [m₁.object_alloc_of_lt o (Nat.lt_trans hs grows), built.rest s hs]

/-- The proxy takes a method of a new name, once there is a function for it. -/
theorem Built.takes (built : Built m b proxy made m₁) (o : Object) {name : String}
    (here : Intrinsic.objectProto.ref.index < m.objects.size)
    (overrides : m.Overrides (.ofString name)) (fresh : ∀ x ∈ made, name ≠ x.1.name) :
    (m₁.alloc o).2.Takes proxy (.ofString name) := by
  have same := m₁.object_alloc_of_lt o built.here
  have above := built.old o here
  exact {
    here := m₁.size_alloc o ▸ Nat.lt_succ_of_lt built.here
    plain := same ▸ built.nature
    free := .inr {
      top := above ▸ overrides.top
      writable := above ▸ overrides.writable
      extensible := same ▸ built.extensible
      proto := same ▸ built.proto
      new := same ▸ built.unset _ fun x hx e => fresh x hx (Key.ofString_inj.1 e) } }

/-- With the function for one more method the proxy has those made before. -/
theorem Built.assign {m₂ : Machine} {q : Signature × Nat} {o : Object}
    (built : Built m b proxy made m₁) (nature : o.nature = .proxy ⟨b, q.2⟩)
    (fresh : ∀ x ∈ made, q.1.name ≠ x.1.name)
    (assigned : (m₁.alloc o).2.Assigned m₂ proxy (.ofString q.1.name)
      (.object (m₁.alloc o).1)) : Built m b proxy (q :: made) m₂ := by
  have same := m₁.object_alloc_of_lt o built.here
  have size : m₂.objects.size = m₁.objects.size + 1 := assigned.size.trans (m₁.size_alloc o)
  refine ⟨built.new, ?_, ?_, ?_, ?_, ?_, ?_, ?_⟩
  · rw [size]
    exact Nat.lt_succ_of_lt built.here
  · rw [assigned.nature, same, built.nature]
  · rw [assigned.proto, same, built.proto]
  · rw [assigned.extensible, same, built.extensible]
  · intro x hx
    rw [size]
    rcases List.mem_cons.1 hx with rfl | hx
    · have isNew : (m₁.alloc o).1 ≠ proxy := fun e => Nat.lt_irrefl _ (e ▸ built.here)
      refine ⟨_, assigned.has, Nat.lt_succ_self _, ?_⟩
      rw [assigned.rest _ isNew, Machine.object_alloc_self, nature]
    · obtain ⟨f, ⟨p, hp, data⟩, hf, hn⟩ := built.functions x hx
      have other : f ≠ proxy := by
        rintro rfl
        rw [built.nature] at hn
        cases hn
      refine ⟨f, ⟨p, ?_, data⟩, Nat.lt_succ_of_lt hf, ?_⟩
      · rw [assigned.others _ fun e => fresh x hx (Key.ofString_inj.1 e).symm, same, hp]
      · rw [assigned.rest f other, m₁.object_alloc_of_lt o hf, hn]
  · intro k hk
    rw [assigned.others k (hk q (List.mem_cons_self ..)), same]
    exact built.unset k fun x hx => hk x (List.mem_cons_of_mem _ hx)
  · intro s hs
    have other : s ≠ proxy := by
      rintro rfl
      exact absurd built.new (Nat.not_le.2 hs)
    rw [assigned.rest s other, built.old o hs]

namespace Exec

theorem newObject_eq (o : Object) (call : Call) (m : Machine) :
    newObject o call m = .done (.ok (.object (m.alloc o).1)) (m.alloc o).2 := rfl

theorem newPlain_eq (call : Call) (m : Machine) :
    newPlain call m = .done (.ok (.object (m.alloc .ordinary).1)) (m.alloc .ordinary).2 := rfl

/-- The function made for a method of a binding is one of a proxy, for the place of the method. -/
theorem proxyFunction_eq (b : Binding) (index : Nat) (s : Signature) (call : Call) (m : Machine) :
    ∃ o : Object, o.nature = .proxy ⟨b, index⟩ ∧
      proxyFunction b index s call m = .done (.ok (.object (m.alloc o).1)) (m.alloc o).2 :=
  ⟨_, rfl, newObject_eq _ call m⟩

/-- Adds the function for a method to a proxy. -/
def addMethod (b : Binding) (proxy : Ref) (q : Signature × Nat) : Exec Unit := do
  put (.object proxy) (.ofString q.1.name) (← proxyFunction b q.2 q.1) true

theorem addMethod_built (built : Built m b proxy made m₁) (q : Signature × Nat) (call : Call)
    (here : Intrinsic.objectProto.ref.index < m.objects.size)
    (overrides : m.Overrides (.ofString q.1.name)) (fresh : ∀ x ∈ made, q.1.name ≠ x.1.name) :
    ∃ m₂, addMethod b proxy q call m₁ = .done (.ok ()) m₂ ∧ Built m b proxy (q :: made) m₂ := by
  obtain ⟨o, nature, function⟩ := proxyFunction_eq b q.2 q.1 call m₁
  obtain ⟨m₂, putting, assigned⟩ :=
    put_of_takes (.object (m₁.alloc o).1) (built.takes o here overrides fresh) call
  refine ⟨m₂, ?_, built.assign nature fresh assigned⟩
  unfold addMethod
  rw [bind_of_done _ function]
  exact putting

/-! ## All functions -/

theorem addMethods_built (built : Built m b proxy made m₁) (call : Call)
    (here : Intrinsic.objectProto.ref.index < m.objects.size) {l : List (Signature × Nat)}
    (overrides : ∀ q ∈ l, m.Overrides (.ofString q.1.name))
    (fresh : ∀ q ∈ l, ∀ x ∈ made, q.1.name ≠ x.1.name) (distinct : (l.map (·.1.name)).Nodup) :
    ∃ m₂, l.forM (addMethod b proxy) call m₁ = .done (.ok ()) m₂ ∧
      Built m b proxy (l.reverse ++ made) m₂ := by
  induction l generalizing made m₁ with
  | nil => exact ⟨m₁, rfl, built⟩
  | cons q l ih =>
    obtain ⟨unlike, distinct⟩ := List.nodup_cons.1 distinct
    obtain ⟨m₂, adding, built⟩ := addMethod_built built q call here
      (overrides q (List.mem_cons_self ..)) (fresh q (List.mem_cons_self ..))
    have fresh' : ∀ x ∈ l, ∀ y ∈ q :: made, x.1.name ≠ y.1.name := by
      intro x hx y hy
      rcases List.mem_cons.1 hy with rfl | hy
      · exact fun e => unlike (List.mem_map.2 ⟨x, hx, e⟩)
      · exact fresh x (List.mem_cons_of_mem _ hx) y hy
    obtain ⟨m₃, rest, built⟩ :=
      ih built (fun x hx => overrides x (List.mem_cons_of_mem _ hx)) fresh' distinct
    refine ⟨m₃, ?_, ?_⟩
    · show (addMethod b proxy q >>= fun _ => l.forM (addMethod b proxy)) call m₁ = _
      rw [bind_of_done _ adding, rest]
    · rw [List.reverse_cons, List.append_assoc]
      exact built

/-- A proxy is installed whole where nothing is in its way: the functions of the global are those
for the places of their methods. -/
theorem installProxy_offers (receives : m.Receives b)
    (distinct : (b.roster.methods.map (·.name)).Nodup) (call : Call) :
    ∃ m', installProxy b call m = .done (.ok ()) m' ∧ m'.Offers b := by
  let l := b.roster.methods.zipIdx
  have mem {s : Signature} {index : Nat} : (s, index) ∈ l ↔ b.roster.method? index = some s :=
    List.mk_mem_zipIdx_iff_getElem?
  have names : b.roster.methods.map (·.name) = l.map (·.1.name) :=
    (congrArg _ (List.zipIdx_map_fst 0 _)).symm.trans List.map_map
  obtain ⟨m₁, adding, built⟩ := addMethods_built (built_nil m b) call receives.here
    (fun q hq => receives.methods _ (List.fst_mem_of_mem_zipIdx hq)) (fun _ _ => nofun)
    (names ▸ distinct)
  have takes : m₁.Takes Intrinsic.global.ref (.ofString b.name) :=
    receives.global.of_object_eq (Nat.le_of_lt (Nat.lt_of_le_of_lt built.new built.here))
      (built.rest _ receives.global.here) (built.rest _ receives.here)
  obtain ⟨m₂, putting, assigned⟩ :=
    put_of_takes (.object (m.alloc .ordinary).1) takes call
  refine ⟨m₂, ?_, _, assigned.has, fun index s hs => ?_⟩
  · unfold installProxy
    rw [bind_of_done _ (newPlain_eq call m)]
    show (l.forM (addMethod b (m.alloc .ordinary).1) >>= fun _ => _) call _ = _
    rw [bind_of_done _ adding]
    exact putting
  · obtain ⟨f, ⟨p, found, data⟩, -, nature⟩ := built.functions (s, index) (by simpa using mem.2 hs)
    have proxy_ne : (m.alloc .ordinary).1 ≠ Intrinsic.global.ref :=
      fun e => Nat.lt_irrefl _ (Nat.lt_of_lt_of_le receives.global.here (e ▸ built.new))
    have function_ne : f ≠ Intrinsic.global.ref := by
      rintro rfl
      rw [takes.plain] at nature
      cases nature
    refine ⟨f, ⟨p, ?_, data⟩, ?_⟩
    · rw [assigned.rest _ proxy_ne, found]
    · rw [assigned.rest _ function_ne, nature]

/-- A machine on which nothing has run receives a proxy; so it does one with a method that all
objects inherit, but none in place of `NaN`. -/
example :
    let method (name : String) : Signature := ⟨name, [], .void⟩
    let m := Machine.fresh none 0 .utc
    m.Receives ⟨1, "door", ⟨"Door", [method "shut", method "toString"]⟩, ⟨0⟩⟩ ∧
      ¬ m.Receives ⟨1, "NaN", ⟨"Door", [method "shut"]⟩, ⟨0⟩⟩ := by
  decide +kernel

end Exec

end Drawbridge.Script
