import Drawbridge.Script.Engine

/-!
# Collections

A machine has the proxy functions that scripts can reach and maybe others, which a collection takes
away.
-/

namespace Drawbridge.Script

/-- The binding that a function calls. -/
def Object.binding? (o : Object) : Option Binding :=
  match o.nature with
  | .proxy target => some target.binding
  | _ => none

namespace Machine

/-- The bindings of the proxy functions on a machine, one for each function, within the reach of
scripts or not. -/
def installed (m : Machine) : List Binding := m.objects.toList.filterMap Object.binding?

theorem filterMap_zipWith_reached (objects : List Object) (marks : List Bool) :
    (List.zipWith (fun o reached => if reached then o else default) objects marks).filterMap
        Object.binding?
      = (objects.zip marks).filterMap fun (o, reached) =>
          if reached then o.binding? else none := by
  induction objects generalizing marks with
  | nil => rfl
  | cons o objects ih =>
    cases marks with
    | nil => rfl
    | cons reached marks =>
      rw [List.zipWith_cons_cons, List.zip_cons_cons, List.filterMap_cons, List.filterMap_cons, ih]
      cases reached <;> rfl

theorem proxies_eq (m : Machine) :
    m.proxies = (m.objects.toList.zip m.marks.objects.toList).filterMap fun (o, reached) =>
      if reached then o.binding? else none := by
  unfold proxies
  refine congrArg (List.filterMap · _) (funext fun (o, reached) => ?_)
  simp only [Object.binding?]
  cases o.nature <;> cases reached <;> simp

/-- Where nothing is under way a collection leaves the proxy functions that scripts can reach, and
no other. -/
theorem installed_collect (m : Machine) (idle : m.working = 0) :
    m.collect.installed = m.proxies := by
  have collected : m.collect.objects
      = m.objects.zipWith (fun o reached => if reached then o else default) m.marks.objects := by
    unfold collect
    rw [if_neg (not_not_intro idle)]
  rw [installed, collected, Array.toList_zipWith, filterMap_zipWith_reached, proxies_eq]

end Machine

end Drawbridge.Script
