import Drawbridge.Proofs.Process.Entries
import Drawbridge.Proofs.Process.Registry

/-!
# Lookups

A thread reads the handle of an interpreter and looks it up later; meanwhile others close and
create.  A handle that led to an entry leads there or nowhere ever after (`Run.owned`), so the
lookup finds the entry that was made with the interpreter, or finds the interpreter closed.
-/

namespace Drawbridge.Process

variable {E : Engine} {σ : Type} {host : Host σ} {p q p' : Process E σ} {t : ThreadId}
  {th th' : Thread E.Context σ} {h : Handle} {e : EntryId}

/-- The handle leads to the entry, or led there and is spent. -/
def Owned (p : Process E σ) (h : Handle) (e : EntryId) : Prop :=
  p.directory.get? h = some e ∨ p.directory.Spent h

theorem Owned.get? (owned : p.Owned h e) :
    p.directory.get? h = some e ∨ p.directory.get? h = none :=
  owned.imp_right SlotMap.Spent.get?

theorem Owned.step (owned : p.Owned h e) (sound : p.directory.Sound)
    (room : p'.directory.slots.size ≤ 2 ^ 32) (step : RegistryStep p th p' th') :
    p'.Owned h e := by
  unfold Owned at owned ⊢
  cases step with
  | rest closing vacating vacating' directory => rwa [directory]
  | close closing vacating vacating' directory => rwa [directory]
  | vacateNone closing vacating vacating' gone directory => rwa [directory]
  | create closing vacating vacating' directory =>
    rw [directory] at room ⊢
    rcases owned with he | spent
    · have hne : h ≠ (p.directory.insert ⟨p.entries.size⟩).1 := by
        rintro rfl
        rw [SlotMap.get?_insert_fst sound _ room] at he
        cases he
      left
      rw [SlotMap.get?_insert sound _ room, if_neg hne, he]
    · exact Or.inr (spent.insert sound _)
  | @vacate k e' closing vacating vacating' found directory =>
    rw [directory]
    rcases owned with he | spent
    · by_cases hk : h = k
      · subst hk
        exact Or.inr (SlotMap.spent_remove sound he)
      · left
        rw [SlotMap.get?_remove, if_neg hk, he]
    · exact Or.inr (spent.remove k)

/-- Whatever is created and closed, a handle that led to an entry leads to no other. -/
theorem Run.owned {past : List (Moment E σ)} (run : Run host p past q)
    (sound : p.directory.Sound) (owned : p.Owned h e) (room : q.directory.slots.size ≤ 2 ^ 32) :
    q.Owned h e := by
  refine (run.keeps (I := fun q => q.directory.Sound ∧
    (q.directory.slots.size ≤ 2 ^ 32 → q.Owned h e)) ⟨sound, fun _ => owned⟩ ?_).2 room
  intro p t th p' th' ih at_t act
  have step := act.registryStep
  have sound' : p'.directory.Sound := step.sound ih.1
  have owned' (room : p'.directory.slots.size ≤ 2 ^ 32) : p'.Owned h e :=
    (ih.2 (Nat.le_trans step.size_le room)).step ih.1 room step
  exact ⟨sound', owned'⟩

/-! ## The steps of a lookup -/

theorem step?_use {js : InterpreterId} {what : Use}
    {next : (Request.use js what).Reply → Program σ MethodResult}
    (at_t : p.threads[t.index]? = some th) (stage : th.stage = .host (.ask (.use js what) next))
    (loaded : p.step? host t = some q) :
    q = p.setThread t { th with stage := .host (next (.error .closed)) } ∨
    (p.handleOf js).isNull = false ∧ ∃ what' back,
      q = p.setThread t { th with stage := .find (p.handleOf js) what' back } ∧
      back (.error .closed) = next (.error .closed) := by
  cases hn : (p.handleOf js).isNull with
  | true => exact Or.inl ((Act.useClosed stage hn).eq_of_step? at_t loaded)
  | false =>
    refine Or.inr ⟨rfl, ?_⟩
    by_cases named : ∃ source, what = .evaluate source none
    · obtain ⟨source, rfl⟩ := named
      exact ⟨.evaluate source (p.settingsOf js).defaultFileName, next,
        (Act.useDefault stage hn).eq_of_step? at_t loaded, rfl⟩
    · have hne : ∀ source, what ≠ .evaluate source none := fun source e => named ⟨source, e⟩
      exact ⟨what, next, (Act.use stage hn hne).eq_of_step? at_t loaded, rfl⟩

theorem step?_close {js : InterpreterId} {next : (Request.close js).Reply → Program σ MethodResult}
    (at_t : p.threads[t.index]? = some th) (stage : th.stage = .host (.ask (.close js) next))
    (loaded : p.step? host t = some q) :
    q = (p.nullify js).setThread t { th with stage := .host (next ()) } ∨
    (p.handleOf js).isNull = false ∧
      q = (p.nullify js).setThread t { th with stage := .vacate (p.handleOf js) (next ()) } := by
  cases hn : (p.handleOf js).isNull with
  | true => exact Or.inl ((Act.closeAgain stage hn).eq_of_step? at_t loaded)
  | false => exact Or.inr ⟨rfl, (Act.close stage hn).eq_of_step? at_t loaded⟩

variable (host) in
/-- An operation works on the entry that its handle led to, if it gets so far. -/
theorem step?_find {what : Use} {back : Except BridgeFault what.Result → Program σ MethodResult}
    (at_t : p.threads[t.index]? = some th) (stage : th.stage = .find h what back)
    (own : p.directory.get? h = some e) :
    ∃ q th', p.step? host t = some q ∧ q.threads[t.index]? = some th' ∧
      (th'.stage.entry? = none ∨ th'.stage.entry? = some e) := by
  obtain ⟨p', th', act, hentry⟩ : ∃ p' th', Act host p t th p' th' ∧
      (th'.stage.entry? = none ∨ th'.stage.entry? = some e) := by
    cases what with
    | evaluate source file => exact ⟨_, _, .findEvaluate stage own, Or.inr rfl⟩
    | collect => exact ⟨_, _, .findCollect stage own, Or.inr rfl⟩
    | globals => exact ⟨_, _, .findGlobals stage own, Or.inr rfl⟩
    | bind name contract object =>
      cases hn : name.isEmpty with
      | true => exact ⟨_, _, .findUnnamed stage own hn, Or.inl rfl⟩
      | false =>
        cases hc : contract.check (host.facets p.memory object) with
        | error refusal => exact ⟨_, _, .findRefused stage own hn hc, Or.inl rfl⟩
        | ok roster => exact ⟨_, _, .findBind stage own hn hc, Or.inr rfl⟩
  exact ⟨_, th', act.step?_eq at_t, getElem?_setThread_self (act.threads ▸ at_t), hentry⟩

/-! ## Whose entry is found -/

theorem Made.index_eq {js : InterpreterId} (made : Made p q js e)
    (sizes : p.interpreters.size = p.entries.size) (next : p.step? host t = some q) :
    e.index = js.index := by
  obtain ⟨th, p', th', at_t, act, rfl⟩ := step?_eq_some_iff.1 next
  have hjs : p.interpreters.size ≤ js.index := interpreter?_eq_none_iff.1 made.interpreter.1
  have he : p.entries.size ≤ e.index := entry?_eq_none_iff.1 made.entry.1
  have hjs' : js.index < p'.interpreters.size := isSome_interpreter?_iff.1 made.interpreter.2
  have he' : e.index < p'.entries.size := isSome_entry?_iff.1 made.entry.2
  have step := act.registryStep
  cases step with
  | create closing vacating vacating' directory interpreters size =>
    rw [interpreters, Array.size_push] at hjs'
    omega
  | rest closing vacating vacating' directory interpreters size => omega
  | close closing vacating vacating' directory interpreters entries =>
    rw [entries] at he'
    omega
  | vacateNone closing vacating vacating' gone directory interpreters size => omega
  | vacate closing vacating vacating' found directory interpreters size => omega

/-- A handle that was read and not looked up yet leads to the entry of its interpreter, if to
any. -/
theorem Run.owned_handleOf {memory : σ} {programs : List (Program σ MethodResult)}
    {past past' : List (Moment E σ)} {js : InterpreterId}
    (before : Run host (start E memory programs) past p) (live : (p.handleOf js).isNull = false)
    (meanwhile : Run host p past' q) (room : q.directory.slots.size ≤ 2 ^ 32) :
    q.Owned (p.handleOf js) ⟨js.index⟩ := by
  have reg := before.registered (Nat.le_trans meanwhile.size_le room)
  obtain ⟨i, hi, hw, hh⟩ := exists_of_handleOf live
  refine meanwhile.owned reg.sound (Or.inl ?_) room
  rw [hh]
  exact reg.live hi hw

/-- A thread reads the handle of an interpreter in the step from `b` and goes on with it in `d`; in
between others do anything. It finds the entry that came to be with the interpreter or finds it
closed, and a close takes this entry out and no other. -/
theorem lookup_own_entry {memory : σ} {programs : List (Program σ MethodResult)}
    {a a' b b' d : Process E σ} {born life meanwhile : List (Moment E σ)} {s t : ThreadId}
    {th : Thread E.Context σ} {js : InterpreterId} {own : EntryId}
    (birth : Run host (start E memory programs) born a) (making : a.step? host s = some a')
    (made : Made a a' js own) (living : Run host a' life b) (at_t : b.threads[t.index]? = some th)
    (reading : b.step? host t = some b') (between : Run host b' meanwhile d)
    (waits : ∀ m ∈ meanwhile, m.thread ≠ t) (room : d.directory.slots.size ≤ 2 ^ 32) :
    (∀ what next, th.stage = .host (.ask (.use js what) next) →
      b'.threads[t.index]? = some { th with stage := .host (next (.error .closed)) } ∨
      ∃ what' back d' th', d.threads[t.index]?
          = some { th with stage := .find (b.handleOf js) what' back } ∧
        d.step? host t = some d' ∧ d'.threads[t.index]? = some th' ∧
        (d.directory.get? (b.handleOf js) = none ∧
            th' = { th with stage := .host (next (.error .closed)) } ∨
          d.directory.get? (b.handleOf js) = some own ∧
            (th'.stage.entry? = none ∨ th'.stage.entry? = some own))) ∧
    (∀ next, th.stage = .host (.ask (.close js) next) →
      b'.threads[t.index]? = some { th with stage := .host (next ()) } ∨
      ∃ d', d.threads[t.index]? = some { th with stage := .vacate (b.handleOf js) (next ()) } ∧
        d.step? host t = some d' ∧ d.directory.get? (b.handleOf js) = some own ∧
        d'.threads[t.index]? = some { th with stage := .lockToClose own (next ()) } ∧
        ∀ h, d'.directory.get? h
          = if h = b.handleOf js then none else d.directory.get? h) := by
  have toB : Run host (start E memory programs) (life ++ _ :: born) b :=
    (birth.step making).trans living
  have toD : Run host (start E memory programs) _ d := (toB.step reading).trans between
  have fromB : Run host b (meanwhile ++ [⟨b, t⟩]) d := (Run.refl.step reading).trans between
  have hsize : a.directory.slots.size ≤ d.directory.slots.size :=
    ((Run.refl.step making).trans (living.trans fromB)).size_le
  have hown : own = ⟨js.index⟩ := by
    have := made.index_eq (birth.registered (Nat.le_trans hsize room)).sizes making
    rw [← this]
  have hwaits := between.thread_eq waits
  constructor
  · intro what next stage
    rcases step?_use at_t stage reading with rfl | ⟨live, what', back, rfl, hback⟩
    · exact Or.inl (getElem?_setThread_self at_t)
    · rw [getElem?_setThread_self at_t] at hwaits
      right
      rcases (toB.owned_handleOf live fromB room).get? with hget | hget
      · obtain ⟨d', th', hstep, at_t', hentry⟩ := step?_find host hwaits rfl hget
        exact ⟨what', back, d', th', hwaits, hstep, at_t', Or.inr ⟨hown ▸ hget, hown ▸ hentry⟩⟩
      · refine ⟨what', back, _, _, hwaits, (Act.findClosed rfl hget).step?_eq hwaits,
          getElem?_setThread_self hwaits, Or.inl ⟨hget, ?_⟩⟩
        rw [hback]
  · intro next stage
    rcases step?_close at_t stage reading with rfl | ⟨live, rfl⟩
    · exact Or.inl (getElem?_setThread_self at_t)
    · have at_t' : (b.nullify js).threads[t.index]? = some th := at_t
      rw [getElem?_setThread_self at_t'] at hwaits
      right
      -- the handle is still there, since the thread is the one to take it out
      obtain ⟨k, i, -, -, hget⟩ := (toD.registered room).vacating (t := t)
        (h := b.handleOf js) (by rw [vacating?_eq hwaits]; rfl)
      have hget : d.directory.get? (b.handleOf js) = some own := by
        rcases (toB.owned_handleOf live fromB room).get? with h | h
        · rw [h, hown]
        · rw [h] at hget
          cases hget
      refine ⟨_, hwaits, (Act.vacate rfl hget).step?_eq hwaits, hget,
        getElem?_setThread_self hwaits, fun h => ?_⟩
      rw [directory_setThread, SlotMap.get?_remove]

/-- One thread evaluates in an interpreter, another closes it and creates a new one. -/
def race : Process .relay Unit :=
  start .relay ()
    [.ask (.create default) fun _ => .ask (.use ⟨0⟩ .collect) fun _ => .done (.ok .void),
      .ask (.close ⟨0⟩) fun _ => .ask (.create default) fun _ => .done (.ok .void)]

/-- The slot was taken up again between the reading of the handle and its lookup. -/
theorem lookup_own_entry_race :
    ∃ d : Process .relay Unit, d.directory.get? ⟨0, 2⟩ = some ⟨1⟩ ∧
      (d.directory.get? ⟨0, 1⟩ = none ∨ d.directory.get? ⟨0, 1⟩ = some ⟨0⟩) := by
  let host : Host Unit :=
    ⟨fun _ _ => ⟨fun _ => true, fun _ => true⟩, fun _ _ _ => .done (.ok .void)⟩
  obtain ⟨a, b, d, making, made, at_t, handle, reading, found, closing, room, reused⟩ :
      ∃ a b d : Process .relay Unit, race.step? host ⟨0⟩ = some a ∧ Made race a ⟨0⟩ ⟨0⟩ ∧
        a.threads[0]? = some
          ⟨.host (.ask (.use ⟨0⟩ .collect) fun _ => .done (.ok .void)), [], []⟩ ∧
        a.handleOf ⟨0⟩ = ⟨0, 1⟩ ∧ a.step? host ⟨0⟩ = some b ∧
        b.threads[0]? = some ⟨.find ⟨0, 1⟩ .collect fun _ => .done (.ok .void), [], []⟩ ∧
        b.follow host (List.replicate 6 ⟨1⟩) = some d ∧ d.directory.slots.size ≤ 2 ^ 32 ∧
        d.directory.get? ⟨0, 2⟩ = some ⟨1⟩ :=
    ⟨_, _, _, rfl, ⟨⟨rfl, rfl⟩, rfl, rfl⟩, rfl, rfl, rfl, rfl, rfl, by decide, rfl⟩
  have waits : ∀ m ∈ b.moments host (List.replicate 6 ⟨1⟩), m.thread ≠ ⟨0⟩ :=
    thread_ne_of_mem_moments (by decide)
  have key := (lookup_own_entry .refl making made .refl at_t reading (.of_follow closing) waits
    room).1 _ _ rfl
  rw [handle] at key
  rcases key with h | ⟨what, back, d', th', -, -, -, h⟩
  · rw [found] at h
    nomatch h
  · exact ⟨d, reused, h.imp And.left And.left⟩

end Drawbridge.Process
