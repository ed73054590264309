import Drawbridge.Proofs.Script.Installation

/-!
# A machine at its start

Nothing that is on a machine at its start depends on its limits (`Machine.fresh_eq`).  So one such
machine shows what they all receive, and an engine that has just been made takes a binding in.
-/

namespace Drawbridge.Script

namespace Machine

/-- The machine with other limits. -/
def within (m : Machine) (textLimit : Option Nat) (depthLimit : Nat) (zone : Time.Zone) : Machine :=
  { m with textLimit, depthLimit, zone }

section Within

variable (m : Machine) (l : Option Nat) (d : Nat) (zone : Time.Zone)

theorem foldl_within {β : Type} {f : Machine → β → Machine}
    (h : ∀ m b, f (m.within l d zone) b = (f m b).within l d zone) (bs : List β) :
    bs.foldl f (m.within l d zone) = (bs.foldl f m).within l d zone :=
  List.foldl_hom (fun m : Machine => m.within l d zone) h

theorem addFunction_within (r : Ref) (f : BuiltIn) :
    addFunction r (m.within l d zone) f = (addFunction r m f).within l d zone := rfl

theorem addConstructor_within (f : BuiltIn) (proto : Intrinsic) (own methods : List BuiltIn) :
    (m.within l d zone).addConstructor f proto own methods
      = (m.addConstructor f proto own methods).within l d zone := by
  unfold addConstructor
  rw [← foldl_within, ← foldl_within]
  · rfl
  · exact fun m f => addFunction_within m l d zone _ f
  · exact fun m f => addFunction_within m l d zone _ f

theorem addErrorClass_within (c : ErrorClass) :
    addErrorClass (m.within l d zone) c = (addErrorClass m c).within l d zone := by
  simp only [addErrorClass, addConstructor_within]
  rfl

theorem addSymbols_within : (m.within l d zone).addSymbols = m.addSymbols.within l d zone := by
  unfold addSymbols
  rw [show (m.within l d zone).object = m.object from rfl]
  cases (m.object Intrinsic.global.ref).find? "Symbol" with
  | none => rfl
  | some p =>
    obtain ⟨content, enumerable, configurable⟩ := p
    cases content with
    | accessor getter setter => rfl
    | data v writable => cases v <;> rfl

theorem addTag_within (word : String) (r : Ref) :
    (m.within l d zone).addTag word r = (m.addTag word r).within l d zone := rfl

theorem addIterator_within (r : Ref) (f : BuiltIn) :
    addIterator r (m.within l d zone) f = (addIterator r m f).within l d zone := rfl

theorem share_within (r : Ref) (k other : Key) :
    share r k other (m.within l d zone) = (share r k other m).within l d zone := rfl

theorem addWalks_within : (m.within l d zone).addWalks = m.addWalks.within l d zone := by
  unfold addWalks
  simp only [share_within, addIterator_within, addFunction_within, List.foldl_cons, List.foldl_nil]

theorem addGlobals_within : (m.within l d zone).addGlobals = m.addGlobals.within l d zone := rfl

theorem addProtoAccessor_within :
    (m.within l d zone).addProtoAccessor = m.addProtoAccessor.within l d zone := rfl

theorem mk_within (working : Nat) (objects : Array Object) (scopes : Array Scope)
    (symbols : Array (Option Utf16)) (runs : List Run) :
    (⟨working, objects, scopes, symbols, runs, l, d, zone⟩ : Machine)
      = within ⟨working, objects, scopes, symbols, runs, none, 0, .utc⟩ l d zone := rfl

-- Proofs of the steps are kept apart: with all of them by computation the kernel runs the machine.
theorem fresh_eq : fresh l d zone = (fresh none 0 .utc).within l d zone := by
  unfold fresh
  rw [mk_within l d zone]
  simp -implicitDefEqProofs only [addConstructor_within, addProtoAccessor_within,
    List.foldl_cons, List.foldl_nil, addErrorClass_within, addTag_within, addSymbols_within,
    addWalks_within, addGlobals_within]

end Within

/-! ## What a machine at its start receives -/

section Start

variable {m m' : Machine} {b : Binding} {zone : Time.Zone}

theorem object_of_objects_eq (same : m'.objects = m.objects) (r : Ref) :
    m'.object r = m.object r := by
  unfold object
  rw [same]

theorem Receives.of_objects_eq (receives : m.Receives b) (same : m'.objects = m.objects) :
    m'.Receives b := by
  have object := object_of_objects_eq same
  have size := congrArg Array.size same
  refine ⟨size ▸ receives.here, fun s hs => ?_,
    receives.global.of_object_eq (Nat.le_of_eq size.symm) (object _) (object _)⟩
  obtain ⟨top, writable⟩ := receives.methods s hs
  exact ⟨object _ ▸ top, object _ ▸ writable⟩

theorem Offers.of_objects_eq (offers : m.Offers b) (same : m'.objects = m.objects) :
    m'.Offers b := by
  simp only [Offers, Has, object_of_objects_eq same]
  exact offers

/-- A machine that is made for settings receives what a machine without limits does. -/
theorem receives_of_ofSettings? {settings : Settings} (made : ofSettings? zone settings = some m)
    (receives : (fresh none 0 .utc).Receives b) : m.Receives b := by
  unfold ofSettings? at made
  simp only at made
  split_ifs at made
  all_goals
    obtain rfl := Option.some.inj made
    rw [fresh_eq]
    exact receives.of_objects_eq rfl

end Start

end Machine

/-- Work that comes to a value without a call of the host. -/
theorem Exec.work_of_done {α : Type} {x : Exec α} {a : α} {m m' : Machine}
    (h : x.start { m with working := m.working + 1 } = .done (.ok a) m') :
    x.work m = .done (.ok a) { m' with working := m'.working - 1 } := by
  unfold work
  rw [h]
  rfl

/-- The engine makes the proxy of a binding a global, if nothing is in its way. -/
theorem install_offers {m : Machine} {b : Binding} (zone : Time.Zone) (receives : m.Receives b)
    (distinct : (b.roster.methods.map (·.name)).Nodup) :
    ∃ m', (engine zone).install b m = .done (.ok ()) m' ∧ m'.Offers b := by
  let begun : Machine := { m with working := m.working + 1 }
  have receives' : begun.Receives b := receives.of_objects_eq rfl
  let call := Call.within (begun.depthLimit - begun.runs.length - scriptDepth * begun.working)
  obtain ⟨m', installing, offers⟩ := Exec.installProxy_offers receives' distinct call
  have attempting : Exec.attempt (Exec.installProxy b) call begun = .done (.ok (.ok ())) m' := by
    unfold Exec.attempt
    rw [installing]
    rfl
  refine ⟨{ m' with working := m'.working - 1 }, ?_, offers.of_objects_eq rfl⟩
  show (Exec.work (Exec.attempt (Exec.installProxy b) >>= _) m).map settled = _
  rw [Exec.work_of_done (Exec.bind_of_done _ attempting)]
  rfl

end Drawbridge.Script
