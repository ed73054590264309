import Drawbridge.Proofs.Handle
import Drawbridge.Proofs.Process.Run

/-!
# Which entry a handle leads to

`RegistryStep` is what an action does to the directory and to the words of the interpreters.
`Run.registered` says that each handle leads to the entry of its own interpreter until it is taken
out, as long as handles have room for the slots; `Run.closed_iff` that words are zero from the first
close on.
-/

namespace Drawbridge

variable {C : Type} {E : Engine} {σ : Type}

/-- The interpreter that a thread is about to close. -/
def Thread.closing? (th : Thread C σ) : Option InterpreterId :=
  match th.stage with
  | .host (.ask (.close js) _) => some js
  | _ => none

/-- The handle that a thread is about to take out of the directory. -/
def Thread.vacating? (th : Thread C σ) : Option Handle :=
  match th.stage with
  | .vacate h _ => some h
  | _ => none

namespace Process

variable {host : Host σ} {p q p' : Process E σ} {t : ThreadId} {th th' : Thread E.Context σ}

/-! ## What actions do to the directory -/

/-- What an action does to the directory and to the interpreters, by what its thread is about to do
with them. -/
inductive RegistryStep (p : Process E σ) (th : Thread E.Context σ) (p' : Process E σ)
    (th' : Thread E.Context σ) : Prop
  | rest (closing : th.closing? = none) (vacating : th.vacating? = none)
      (vacating' : th'.vacating? = none) (directory : p'.directory = p.directory)
      (interpreters : p'.interpreters = p.interpreters) (size : p'.entries.size = p.entries.size)
  | create {settings} (closing : th.closing? = none) (vacating : th.vacating? = none)
      (vacating' : th'.vacating? = none)
      (directory : p'.directory = (p.directory.insert ⟨p.entries.size⟩).2)
      (interpreters : p'.interpreters
        = p.interpreters.push ⟨(p.directory.insert ⟨p.entries.size⟩).1.toBits, settings⟩)
      (size : p'.entries.size = p.entries.size + 1)
  | close {js} (closing : th.closing? = some js) (vacating : th.vacating? = none)
      (vacating' : th'.vacating?
        = if (p.handleOf js).isNull then none else some (p.handleOf js))
      (directory : p'.directory = p.directory)
      (interpreters : p'.interpreters = (p.nullify js).interpreters)
      (entries : p'.entries = p.entries)
  | vacateNone {h} (closing : th.closing? = none) (vacating : th.vacating? = some h)
      (vacating' : th'.vacating? = none) (gone : p.directory.get? h = none)
      (directory : p'.directory = p.directory)
      (interpreters : p'.interpreters = p.interpreters) (size : p'.entries.size = p.entries.size)
  | vacate {h e} (closing : th.closing? = none) (vacating : th.vacating? = some h)
      (vacating' : th'.vacating? = none) (found : p.directory.get? h = some e)
      (directory : p'.directory = (p.directory.remove h).2)
      (interpreters : p'.interpreters = p.interpreters) (size : p'.entries.size = p.entries.size)

theorem closing?_ended {body : Program σ MethodResult} {r : Except Panic MethodResult}
    (stage : th.stage = .host body) (result : body.result? = some r) : th.closing? = none := by
  unfold Thread.closing?
  rw [stage]
  cases body <;> simp_all [Program.result?]

theorem Act.registryStep (act : Act host p t th p' th') : RegistryStep p th p' th' := by
  cases act with
  | create stage =>
    exact .create (by simp [Thread.closing?, stage]) (by simp [Thread.vacating?, stage]) rfl rfl rfl
      (by simp [enroll])
  | closeAgain stage null =>
    exact .close (by simp [Thread.closing?, stage]) (by simp [Thread.vacating?, stage])
      (by rw [null]; rfl) rfl rfl rfl
  | close stage live =>
    exact .close (by simp [Thread.closing?, stage]) (by simp [Thread.vacating?, stage])
      (by rw [live]; rfl) rfl rfl rfl
  | vacateNone stage gone =>
    exact .vacateNone (by simp [Thread.closing?, stage]) (by simp [Thread.vacating?, stage]) rfl
      gone rfl rfl rfl
  | vacate stage found =>
    exact .vacate (by simp [Thread.closing?, stage]) (by simp [Thread.vacating?, stage]) rfl
      found rfl rfl rfl
  | resume stage result =>
    exact .rest (closing?_ended stage result) (by simp [Thread.vacating?, stage]) rfl rfl rfl rfl
  | drop stage =>
    refine .rest (by simp [Thread.closing?, stage]) (by simp [Thread.vacating?, stage]) rfl ?_ ?_ ?_
    all_goals split_ifs <;> rfl
  | leave stage =>
    refine .rest (by simp [Thread.closing?, stage]) (by simp [Thread.vacating?, stage]) rfl ?_ ?_ ?_
    all_goals split_ifs <;> simp
  | read stage | write stage | createFailed stage | useClosed stage | useDefault stage | use stage
  | handle stage | settings stage | references stage | events stage | findClosed stage
  | findGlobals stage | findEvaluate stage | findCollect stage | findUnnamed stage
  | findRefused stage | findBind stage | names stage | lock stage | checkReleased stage
  | check stage | enter stage | workDone stage | workRefused stage | workCall stage
  | publish stage | publishNothing stage | finish stage | finishLast stage | unlock stage
  | lockToClose stage | defer stage | destroy stage | unlockClosed stage =>
    exact .rest (by simp [Thread.closing?, stage]) (by simp [Thread.vacating?, stage]) rfl rfl rfl
      (by simp)

theorem RegistryStep.size_le (step : RegistryStep p th p' th') :
    p.directory.slots.size ≤ p'.directory.slots.size := by
  cases step with
  | create closing vacating vacating' directory =>
    rw [directory]
    exact SlotMap.size_le_size_insert _ _
  | vacate closing vacating vacating' found directory =>
    rw [directory, SlotMap.size_remove]
  | rest | close | vacateNone => simp_all

theorem RegistryStep.sound (sound : p.directory.Sound) (step : RegistryStep p th p' th') :
    p'.directory.Sound := by
  cases step with
  | create closing vacating vacating' directory => exact directory ▸ sound.insert _
  | vacate closing vacating vacating' found directory => exact directory ▸ sound.remove _
  | rest closing vacating vacating' directory => exact directory ▸ sound
  | close closing vacating vacating' directory => exact directory ▸ sound
  | vacateNone closing vacating vacating' gone directory => exact directory ▸ sound

theorem Run.sound {past : List (Moment E σ)} (run : Run host p past q)
    (sound : p.directory.Sound) : q.directory.Sound := by
  refine run.keeps (I := fun q => q.directory.Sound) sound ?_
  intro p t th p' th' ih _ act
  show p'.directory.Sound
  exact act.registryStep.sound ih

theorem Run.size_le {past : List (Moment E σ)} (run : Run host p past q) :
    p.directory.slots.size ≤ q.directory.slots.size :=
  run.keeps (I := fun q => p.directory.slots.size ≤ q.directory.slots.size) (Nat.le_refl _)
    fun ih _ act => Nat.le_trans ih act.registryStep.size_le

/-! ## Threads and interpreters -/

/-- The handle that a thread is about to take out. -/
def vacating? (p : Process E σ) (t : ThreadId) : Option Handle :=
  p.threads[t.index]?.bind Thread.vacating?

theorem vacating?_eq (h : p.threads[t.index]? = some th) : p.vacating? t = th.vacating? := by
  unfold vacating?
  rw [h]
  rfl

theorem vacating?_setThread (th' : Thread E.Context σ) (threads : p'.threads = p.threads)
    (h : p.threads[t.index]? = some th) (s : ThreadId) :
    (p'.setThread t th').vacating? s = if s = t then th'.vacating? else p.vacating? s := by
  have h' : p'.threads[t.index]? = some th := by rw [threads, h]
  split_ifs with hs
  · rw [hs, vacating?_eq (getElem?_setThread_self h')]
  · unfold vacating?
    rw [getElem?_setThread_ne hs, threads]

theorem vacating?_setThread_of_none (threads : p'.threads = p.threads)
    (h : p.threads[t.index]? = some th) (vacating : th.vacating? = none)
    (vacating' : th'.vacating? = none) (s : ThreadId) :
    (p'.setThread t th').vacating? s = p.vacating? s := by
  rw [vacating?_setThread _ threads h]
  split_ifs with hs
  · rw [hs, vacating?_eq h, vacating, vacating']
  · rfl

theorem interpreter?_setThread_of_eq (t : ThreadId) (th' : Thread E.Context σ)
    (interpreters : p'.interpreters = p.interpreters) (js : InterpreterId) :
    (p'.setThread t th').interpreter? js = p.interpreter? js := by
  simp only [interpreter?, interpreters_setThread, interpreters]

theorem interpreter?_nullify (p : Process E σ) (js js' : InterpreterId) :
    (p.nullify js).interpreter? js'
      = if js' = js then (p.interpreter? js).map fun i => { i with word := 0 }
        else p.interpreter? js' := by
  unfold nullify interpreter?
  rw [Array.getElem?_modify]
  obtain ⟨i⟩ := js
  obtain ⟨j⟩ := js'
  by_cases h : i = j
  · simp [h]
  · simp [h, Ne.symm h]

theorem handleOf_eq {js : InterpreterId} {i : Interpreter}
    (hi : p.interpreter? js = some i) : p.handleOf js = i.handle := by
  simp [handleOf, hi]

theorem isNull_handleOf_iff {js : InterpreterId} {i : Interpreter}
    (hi : p.interpreter? js = some i) : (p.handleOf js).isNull = true ↔ i.word = 0 := by
  rw [handleOf_eq hi]
  exact Handle.isNull_ofBits i.word

/-- A handle that is not null is that of an interpreter not closed yet. -/
theorem exists_of_handleOf {js : InterpreterId} (live : (p.handleOf js).isNull = false) :
    ∃ i, p.interpreter? js = some i ∧ i.word ≠ 0 ∧ p.handleOf js = i.handle := by
  cases hi : p.interpreter? js with
  | none =>
    have hnull : p.handleOf js = .null := by simp [handleOf, hi]
    rw [hnull, Handle.isNull_null] at live
    cases live
  | some i =>
    refine ⟨i, rfl, fun hw => ?_, handleOf_eq hi⟩
    rw [(isNull_handleOf_iff hi).2 hw] at live
    cases live

/-- An interpreter stays, and its word does until it is closed, which changes no entry. -/
theorem RegistryStep.interpreter? (step : RegistryStep p th p' th') {js : InterpreterId}
    {i : Interpreter} (hi : p.interpreter? js = some i) :
    ∃ i', p'.interpreter? js = some i' ∧
      (i'.word = i.word ∨ i'.word = 0 ∧ p'.entries = p.entries) := by
  have same (interpreters : p'.interpreters = p.interpreters) :
      ∃ i', p'.interpreter? js = some i' ∧
        (i'.word = i.word ∨ i'.word = 0 ∧ p'.entries = p.entries) :=
    ⟨i, by rw [Process.interpreter?, interpreters]; exact hi, Or.inl rfl⟩
  cases step with
  | rest closing vacating vacating' directory interpreters => exact same interpreters
  | vacateNone closing vacating vacating' gone directory interpreters => exact same interpreters
  | vacate closing vacating vacating' found directory interpreters => exact same interpreters
  | create closing vacating vacating' directory interpreters =>
    have hne : js.index ≠ p.interpreters.size := Nat.ne_of_lt (lt_size_of_interpreter? hi)
    refine ⟨i, ?_, Or.inl rfl⟩
    rw [Process.interpreter?, interpreters, Array.getElem?_push, if_neg hne]
    exact hi
  | @close js' closing vacating vacating' directory interpreters entries =>
    have hi' : p'.interpreter? js = (p.nullify js').interpreter? js := by
      rw [Process.interpreter?, interpreters]
      rfl
    rw [hi', interpreter?_nullify]
    split_ifs with h
    · subst h
      exact ⟨{ i with word := 0 }, by rw [hi]; rfl, Or.inr ⟨rfl, entries⟩⟩
    · exact ⟨i, hi, Or.inl rfl⟩

theorem Run.exists_interpreter {past : List (Moment E σ)} (run : Run host p past q)
    {js : InterpreterId} {i : Interpreter} (hi : p.interpreter? js = some i) :
    ∃ i', q.interpreter? js = some i' := by
  refine run.keeps (I := fun q => ∃ i', q.interpreter? js = some i') ⟨i, hi⟩ ?_
  rintro p t th p' th' ⟨i, hi⟩ - act
  obtain ⟨i', hi', -⟩ := act.registryStep.interpreter? hi
  exact ⟨i', hi'⟩

/-- An interpreter that is closed stays closed. -/
theorem Run.isNull_handleOf {past : List (Moment E σ)} (run : Run host p past q)
    {js : InterpreterId} {i : Interpreter} (hi : p.interpreter? js = some i)
    (null : (p.handleOf js).isNull = true) : (q.handleOf js).isNull = true := by
  have key : ∃ i', q.interpreter? js = some i' ∧ i'.word = 0 := by
    refine run.keeps (I := fun q => ∃ i', q.interpreter? js = some i' ∧ i'.word = 0)
      ⟨i, hi, (isNull_handleOf_iff hi).1 null⟩ ?_
    rintro p t th p' th' ⟨i, hi, hw⟩ - act
    obtain ⟨i', hi', hw'⟩ := act.registryStep.interpreter? hi
    exact ⟨i', hi', hw'.elim (fun h => h.trans hw) And.left⟩
  obtain ⟨i', hi', hw⟩ := key
  exact (isNull_handleOf_iff hi').2 hw

/-! ## The directory -/

/-- The directory leads from the handle of each interpreter to its own entry, until the thread that
closed it has taken the handle out. -/
structure Registered (p : Process E σ) : Prop where
  sound : p.directory.Sound
  sizes : p.interpreters.size = p.entries.size
  live : ∀ {js i}, p.interpreter? js = some i → i.word ≠ 0 →
    p.directory.get? i.handle = some ⟨js.index⟩
  vacating : ∀ {t h}, p.vacating? t = some h →
    ∃ js i, p.interpreter? js = some i ∧ i.word = 0 ∧ p.directory.get? h = some ⟨js.index⟩
  alone : ∀ {t t' h}, p.vacating? t = some h → p.vacating? t' = some h → t = t'
  listed : ∀ {h e}, p.directory.get? h = some e →
    (∃ i, p.interpreter? ⟨e.index⟩ = some i ∧ i.word ≠ 0 ∧ i.handle = h) ∨
      ∃ t, p.vacating? t = some h

/-- The handle of an interpreter that is not closed is about to be taken out by no one. -/
theorem Registered.not_vacating (reg : Registered p) {js : InterpreterId} {i : Interpreter}
    (hi : p.interpreter? js = some i) (hw : i.word ≠ 0) : p.vacating? t ≠ some i.handle := by
  intro hv
  obtain ⟨js', i', hi', hw', hget⟩ := reg.vacating hv
  rw [reg.live hi hw, Option.some_inj, EntryId.mk.injEq] at hget
  obtain rfl : js = js' := by cases js; cases js'; exact congrArg _ hget
  rw [hi, Option.some_inj] at hi'
  exact hw (hi' ▸ hw')

theorem registered_start (memory : σ) (programs : List (Program σ MethodResult)) :
    Registered (start E memory programs) := by
  have hv : ∀ t, (start E memory programs).vacating? t = none := by
    intro t
    simp only [vacating?, start, List.getElem?_toArray, List.getElem?_map]
    cases programs[t.index]? <;> rfl
  refine ⟨SlotMap.sound_empty, rfl, ?_, ?_, ?_, ?_⟩
  · intro js i hi
    simp [interpreter?, start] at hi
  · intro t h ht
    rw [hv] at ht
    cases ht
  · intro t t' h ht
    rw [hv] at ht
    cases ht
  · intro h e hget
    simp [SlotMap.get?, start, SlotMap.empty] at hget

section Step

variable (reg : Registered p) (threads : p'.threads = p.threads)
  (at_t : p.threads[t.index]? = some th)

include reg threads at_t

theorem Registered.rest (vacating : th.vacating? = none) (vacating' : th'.vacating? = none)
    (directory : p'.directory = p.directory) (interpreters : p'.interpreters = p.interpreters)
    (size : p'.entries.size = p.entries.size) : Registered (p'.setThread t th') := by
  have hv := vacating?_setThread_of_none threads at_t vacating vacating'
  have hi := interpreter?_setThread_of_eq t th' interpreters
  refine ⟨?_, ?_, ?_, ?_, ?_, ?_⟩
  · simpa [directory] using reg.sound
  · simpa [interpreters, size] using reg.sizes
  · simp only [hi, directory_setThread, directory]
    exact reg.live
  · simp only [hi, hv, directory_setThread, directory]
    exact reg.vacating
  · simp only [hv]
    exact reg.alone
  · simp only [hi, hv, directory_setThread, directory]
    exact reg.listed

theorem Registered.create {settings : Settings} (room : p'.directory.slots.size ≤ 2 ^ 32)
    (vacating : th.vacating? = none) (vacating' : th'.vacating? = none)
    (directory : p'.directory = (p.directory.insert ⟨p.entries.size⟩).2)
    (interpreters : p'.interpreters
      = p.interpreters.push ⟨(p.directory.insert ⟨p.entries.size⟩).1.toBits, settings⟩)
    (size : p'.entries.size = p.entries.size + 1) : Registered (p'.setThread t th') := by
  have hv := vacating?_setThread_of_none threads at_t vacating vacating'
  set k := (p.directory.insert ⟨p.entries.size⟩).1 with hk
  have hi : ∀ js, (p'.setThread t th').interpreter? js
      = if js.index = p.interpreters.size then some ⟨k.toBits, settings⟩
        else p.interpreter? js := by
    intro js
    simp only [interpreter?, interpreters_setThread, interpreters, Array.getElem?_push]
  rw [directory] at room
  have hget : ∀ h, (p'.setThread t th').directory.get? h
      = if h = k then some ⟨p.entries.size⟩ else p.directory.get? h := by
    intro h
    rw [directory_setThread, directory, SlotMap.get?_insert reg.sound _ room]
  have hfresh : p.directory.get? k = none := SlotMap.get?_insert_fst reg.sound _ room
  have hword : k.toBits ≠ 0 :=
    Handle.toBits_ne_zero (SlotMap.insert_generation_ne_zero reg.sound _)
  -- the new handle led nowhere, so one that led to an entry still leads there
  have hold : ∀ {h e}, p.directory.get? h = some e →
      (p'.setThread t th').directory.get? h = some e := by
    intro h e he
    have hne : h ≠ k := by
      rintro rfl
      rw [hfresh] at he
      cases he
    rw [hget, if_neg hne, he]
  refine ⟨?_, ?_, ?_, ?_, ?_, ?_⟩
  · rw [directory_setThread, directory]
    exact reg.sound.insert _
  · simp [interpreters, size, reg.sizes]
  · intro js i hjs hw
    rw [hi] at hjs
    split_ifs at hjs with hjs'
    · obtain rfl := Option.some.inj hjs
      rw [Interpreter.handle, Handle.ofBits_toBits, hget, if_pos rfl, hjs', reg.sizes]
    · exact hold (reg.live hjs hw)
  · intro s h hs
    rw [hv] at hs
    obtain ⟨js, i, hjs, hw, he⟩ := reg.vacating hs
    have hne : js.index ≠ p.interpreters.size :=
      Nat.ne_of_lt (lt_size_of_interpreter? hjs)
    exact ⟨js, i, by rw [hi, if_neg hne, hjs], hw, hold he⟩
  · simp only [hv]
    exact reg.alone
  · intro h e he
    rw [hget] at he
    split_ifs at he with hh
    · obtain rfl := Option.some.inj he
      refine Or.inl ⟨⟨k.toBits, settings⟩, ?_, hword, ?_⟩
      · rw [hi, if_pos reg.sizes.symm]
      · rw [Interpreter.handle, Handle.ofBits_toBits, hh]
    · rcases reg.listed he with ⟨i, hjs, hw, hh⟩ | ⟨s, hs⟩
      · have hne : e.index ≠ p.interpreters.size :=
          Nat.ne_of_lt (lt_size_of_interpreter? hjs)
        exact Or.inl ⟨i, by rw [hi, if_neg hne, hjs], hw, hh⟩
      · exact Or.inr ⟨s, by rw [hv, hs]⟩

theorem Registered.close {js : InterpreterId} (vacating : th.vacating? = none)
    (vacating' : th'.vacating? = if (p.handleOf js).isNull then none else some (p.handleOf js))
    (directory : p'.directory = p.directory)
    (interpreters : p'.interpreters = (p.nullify js).interpreters)
    (size : p'.entries.size = p.entries.size) : Registered (p'.setThread t th') := by
  have hi : ∀ k, (p'.setThread t th').interpreter? k
      = if k = js then (p.interpreter? js).map fun i => { i with word := 0 }
        else p.interpreter? k := by
    intro k
    rw [← interpreter?_nullify]
    simp only [interpreter?, interpreters_setThread, interpreters]
  have hne : ∀ {s h}, p.vacating? s = some h → s ≠ t := by
    rintro s h hs rfl
    rw [vacating?_eq at_t, vacating] at hs
    cases hs
  -- a handle that the thread is to take out is one that the interpreter had until now
  have htaken : ∀ {h}, th'.vacating? = some h →
      ∃ i, p.interpreter? js = some i ∧ i.word ≠ 0 ∧ h = i.handle := by
    intro h hh
    rw [vacating'] at hh
    split_ifs at hh with hn
    obtain rfl := Option.some.inj hh
    exact exists_of_handleOf (by simpa using hn)
  have hv := vacating?_setThread th' threads at_t
  refine ⟨?_, ?_, ?_, ?_, ?_, ?_⟩
  · simpa [directory] using reg.sound
  · simpa [interpreters, size, nullify] using reg.sizes
  · intro k i hk hw
    rw [hi] at hk
    split_ifs at hk with hkj
    · obtain ⟨i', -, rfl⟩ := Option.map_eq_some_iff.1 hk
      exact absurd rfl hw
    · rw [directory_setThread, directory]
      exact reg.live hk hw
  · intro s h hs
    rw [hv] at hs
    rw [directory_setThread, directory]
    split_ifs at hs with hst
    · obtain ⟨i, hjs, hw, rfl⟩ := htaken hs
      exact ⟨js, { i with word := 0 }, by rw [hi, if_pos rfl, hjs]; rfl, rfl, reg.live hjs hw⟩
    · obtain ⟨k, i, hk, hw, he⟩ := reg.vacating hs
      by_cases hkj : k = js
      · subst hkj
        exact ⟨k, { i with word := 0 }, by rw [hi, if_pos rfl, hk]; rfl, rfl, he⟩
      · exact ⟨k, i, by rw [hi, if_neg hkj, hk], hw, he⟩
  · intro s s' h hs hs'
    rw [hv] at hs hs'
    split_ifs at hs hs' with hst hst'
    · rw [hst, hst']
    · obtain ⟨i, hjs, hw, rfl⟩ := htaken hs
      exact absurd hs' (reg.not_vacating hjs hw)
    · obtain ⟨i, hjs, hw, rfl⟩ := htaken hs'
      exact absurd hs (reg.not_vacating hjs hw)
    · exact reg.alone hs hs'
  · intro h e he
    rw [directory_setThread, directory] at he
    rcases reg.listed he with ⟨i, hk, hw, hh⟩ | ⟨s, hs⟩
    · by_cases hkj : (⟨e.index⟩ : InterpreterId) = js
      · subst hkj
        have live : (p.handleOf ⟨e.index⟩).isNull = false :=
          Bool.eq_false_iff.2 fun null => hw ((isNull_handleOf_iff hk).1 null)
        refine Or.inr ⟨t, ?_⟩
        rw [hv, if_pos rfl, vacating', live, handleOf_eq hk, hh]
        rfl
      · exact Or.inl ⟨i, by rw [hi, if_neg hkj, hk], hw, hh⟩
    · exact Or.inr ⟨s, by rw [hv, if_neg (hne hs), hs]⟩

theorem Registered.vacate {h : Handle} (vacating : th.vacating? = some h)
    (vacating' : th'.vacating? = none) (directory : p'.directory = (p.directory.remove h).2)
    (interpreters : p'.interpreters = p.interpreters) (size : p'.entries.size = p.entries.size) :
    Registered (p'.setThread t th') := by
  have hv := vacating?_setThread th' threads at_t
  have ht : p.vacating? t = some h := by rw [vacating?_eq at_t, vacating]
  have hi := interpreter?_setThread_of_eq t th' interpreters
  have hget : ∀ k, (p'.setThread t th').directory.get? k
      = if k = h then none else p.directory.get? k := by
    intro k
    rw [directory_setThread, directory, SlotMap.get?_remove]
  refine ⟨?_, ?_, ?_, ?_, ?_, ?_⟩
  · rw [directory_setThread, directory]
    exact reg.sound.remove h
  · simpa [interpreters, size] using reg.sizes
  · intro js i hjs hw
    rw [hi] at hjs
    have hne : i.handle ≠ h := by
      rintro rfl
      exact reg.not_vacating hjs hw ht
    rw [hget, if_neg hne]
    exact reg.live hjs hw
  · intro s k hs
    rw [hv] at hs
    split_ifs at hs with hst
    · rw [vacating'] at hs
      cases hs
    · obtain ⟨js, i, hjs, hw, he⟩ := reg.vacating hs
      have hne : k ≠ h := by
        rintro rfl
        exact hst (reg.alone hs ht)
      exact ⟨js, i, by rw [hi, hjs], hw, by rw [hget, if_neg hne, he]⟩
  · intro s s' k hs hs'
    rw [hv] at hs hs'
    rw [vacating'] at hs hs'
    split_ifs at hs hs'
    exact reg.alone hs hs'
  · intro k e he
    rw [hget] at he
    split_ifs at he with hk
    rcases reg.listed he with ⟨i, hjs, hw, hh⟩ | ⟨s, hs⟩
    · exact Or.inl ⟨i, by rw [hi, hjs], hw, hh⟩
    · have hne : s ≠ t := by
        rintro rfl
        rw [ht] at hs
        exact hk (Option.some.inj hs).symm
      exact Or.inr ⟨s, by rw [hv, if_neg hne, hs]⟩

theorem Registered.step (room : p'.directory.slots.size ≤ 2 ^ 32)
    (step : RegistryStep p th p' th') : Registered (p'.setThread t th') := by
  cases step with
  | rest closing vacating vacating' directory interpreters size =>
    exact reg.rest threads at_t vacating vacating' directory interpreters size
  | create closing vacating vacating' directory interpreters size =>
    exact reg.create threads at_t room vacating vacating' directory interpreters size
  | close closing vacating vacating' directory interpreters entries =>
    exact reg.close threads at_t vacating vacating' directory interpreters (by rw [entries])
  | vacateNone closing vacating vacating' gone =>
    obtain ⟨js, i, -, -, he⟩ := reg.vacating (t := t) (by rw [vacating?_eq at_t, vacating])
    rw [gone] at he
    cases he
  | vacate closing vacating vacating' found directory interpreters size =>
    exact reg.vacate threads at_t vacating vacating' directory interpreters size

end Step

theorem Run.registered {memory : σ} {programs : List (Program σ MethodResult)}
    {past : List (Moment E σ)} (run : Run host (start E memory programs) past p)
    (room : p.directory.slots.size ≤ 2 ^ 32) : Registered p := by
  refine run.keeps (I := fun p => p.directory.slots.size ≤ 2 ^ 32 → Registered p)
    (fun _ => registered_start memory programs) ?_ room
  intro p t th p' th' ih at_t act room
  have step := act.registryStep
  exact (ih (Nat.le_trans step.size_le room)).step act.threads at_t room step

/-! ## Interpreters and their entries -/

/-- The interpreter and the entry came to be in one step. -/
structure Made (p q : Process E σ) (js : InterpreterId) (e : EntryId) : Prop where
  interpreter : p.interpreter? js = none ∧ (q.interpreter? js).isSome
  entry : p.entry? e = none ∧ (q.entry? e).isSome

/-- The entry came to be with the interpreter in some step of the past. -/
def Own (host : Host σ) (past : List (Moment E σ)) (js : InterpreterId) (e : EntryId) : Prop :=
  ∃ m ∈ past, ∃ q, m.process.step? host m.thread = some q ∧ Made m.process q js e

theorem RegistryStep.sizes (step : RegistryStep p th p' th')
    (sizes : p.interpreters.size = p.entries.size) : p'.interpreters.size = p'.entries.size := by
  cases step with
  | rest closing vacating vacating' directory interpreters size => rw [interpreters, size, sizes]
  | create closing vacating vacating' directory interpreters size =>
    rw [interpreters, Array.size_push, size, sizes]
  | close closing vacating vacating' directory interpreters entries =>
    rw [interpreters, entries, ← sizes]
    simp [nullify]
  | vacateNone closing vacating vacating' gone directory interpreters size =>
    rw [interpreters, size, sizes]
  | vacate closing vacating vacating' found directory interpreters size =>
    rw [interpreters, size, sizes]

theorem Run.sizes {past : List (Moment E σ)} (run : Run host p past q)
    (sizes : p.interpreters.size = p.entries.size) : q.interpreters.size = q.entries.size := by
  refine run.keeps (I := fun q => q.interpreters.size = q.entries.size) sizes ?_
  intro p t th p' th' ih _ act
  show p'.interpreters.size = p'.entries.size
  exact act.registryStep.sizes ih

/-- The entry of an interpreter is the one of its index. -/
theorem Run.own {memory : σ} {programs : List (Program σ MethodResult)}
    {past : List (Moment E σ)} (run : Run host (start E memory programs) past p) {e : EntryId}
    (he : (p.entry? e).isSome) : Own host past ⟨e.index⟩ e := by
  induction run with
  | refl =>
    rw [entry?_start] at he
    cases he
  | @step past q r t run next ih =>
    cases before : q.entry? e with
    | some x =>
      obtain ⟨m, hm, own⟩ := ih (by rw [before]; rfl)
      exact ⟨m, List.mem_cons_of_mem _ hm, own⟩
    | none =>
      have old : q.entries.size ≤ e.index := entry?_eq_none_iff.1 before
      have new : e.index < r.entries.size := isSome_entry?_iff.1 he
      refine ⟨⟨q, t⟩, List.mem_cons_self .., r, next, ⟨?_, ?_⟩, before, he⟩
      · exact interpreter?_eq_none_iff.2 (run.sizes rfl ▸ old)
      · exact isSome_interpreter?_iff.2 ((run.step next).sizes rfl ▸ new)

/-! ## Closing -/

/-- A thread asks at this moment for an interpreter to be closed. -/
def Moment.Closes (m : Moment E σ) (js : InterpreterId) : Prop :=
  (m.process.threads[m.thread.index]?.bind Thread.closing?) = some js ∧
    (m.process.interpreter? js).isSome

/-- The close of an interpreter was asked for. -/
def Closed (past : List (Moment E σ)) (js : InterpreterId) : Prop := ∃ m ∈ past, m.Closes js

theorem closed_cons {past : List (Moment E σ)} {js : InterpreterId}
    (at_t : p.threads[t.index]? = some th) :
    Closed (⟨p, t⟩ :: past) js ↔
      th.closing? = some js ∧ (p.interpreter? js).isSome ∨ Closed past js := by
  simp [Closed, Moment.Closes, at_t]

/-- The word of an interpreter is zero from its first close on, and not before. -/
theorem Run.closed_iff {memory : σ} {programs : List (Program σ MethodResult)}
    {past : List (Moment E σ)} (run : Run host (start E memory programs) past p)
    (js : InterpreterId) :
    Closed past js ↔ ∃ i, p.interpreter? js = some i ∧ i.word = 0 := by
  induction run with
  | refl => simp [Closed, interpreter?, start]
  | @step past q r t run next ih =>
    obtain ⟨th, p', th', at_t, act, rfl⟩ := step?_eq_some_iff.1 next
    rw [closed_cons at_t, ih]
    have sound : q.directory.Sound := run.sound SlotMap.sound_empty
    have step := act.registryStep
    have same (closing : th.closing? = none) (interpreters : p'.interpreters = q.interpreters) :
        (th.closing? = some js ∧ (q.interpreter? js).isSome ∨
          ∃ i, q.interpreter? js = some i ∧ i.word = 0) ↔
        ∃ i, (p'.setThread t th').interpreter? js = some i ∧ i.word = 0 := by
      simp [closing, interpreter?, interpreters]
    cases step with
    | rest closing vacating vacating' directory interpreters => exact same closing interpreters
    | vacateNone closing vacating vacating' gone directory interpreters =>
      exact same closing interpreters
    | vacate closing vacating vacating' found directory interpreters =>
      exact same closing interpreters
    | create closing vacating vacating' directory interpreters =>
      have hword := Handle.toBits_ne_zero
        (SlotMap.insert_generation_ne_zero sound (⟨q.entries.size⟩ : EntryId))
      simp only [closing, reduceCtorEq, false_and, false_or, interpreter?, interpreters_setThread,
        interpreters, Array.getElem?_push]
      split_ifs with h
      · simp [h, hword]
      · rfl
    | @close js' closing vacating vacating' directory interpreters =>
      have hi : (p'.setThread t th').interpreter? js = (q.nullify js').interpreter? js := by
        simp only [interpreter?, interpreters_setThread, interpreters]
      rw [hi, interpreter?_nullify, closing]
      by_cases h : js = js'
      · subst h
        cases q.interpreter? js <;> simp
      · simp [h, Ne.symm h]

end Process

end Drawbridge
