import Drawbridge.Proofs.Process.Lookup
import Drawbridge.Proofs.Process.Release
import Drawbridge.Proofs.Switchboard.Names

/-!
# The names that a thread is told

A thread that asks for the names of an interpreter looks its entry up and then reads the board,
without the lock and without a look at the engine.  `Call.answer` says what it is told.  By
`Run.names_iff` these are names that the interpreter had during the call, unless a close came in
between and took names away, or one was published after it.
-/

namespace Drawbridge.Process

variable {E : Engine} {σ : Type} {host : Host σ} {p q : Process E σ} {t : ThreadId}
  {th : Thread E.Context σ} {e : EntryId} {js : InterpreterId} {memory : σ}
  {programs : List (Program σ MethodResult)} {past : List (Moment E σ)}

/-! ## Boards in a run -/

theorem boardOf_eq {x : Entry E.Context} (hx : p.entry? e = some x) : p.boardOf e = x.board := by
  unfold boardOf
  rw [hx]
  rfl

/-- As long as the engine of an entry is not released, what was published stays so. -/
theorem Run.entry (run : Run host p past q) (sound : p.directory.Sound) {x : Entry E.Context}
    (hx : p.entry? e = some x) :
    ∃ y, q.entry? e = some y ∧ x.releases ≤ y.releases ∧
      (y.releases = x.releases →
        ∀ name, (x.board.get? name).isSome → (y.board.get? name).isSome) := by
  refine run.keeps_of_change (I := fun q => ∃ y, q.entry? e = some y ∧
    x.releases ≤ y.releases ∧ (y.releases = x.releases → ∀ name, (x.board.get? name).isSome →
      (y.board.get? name).isSome)) sound ⟨x, hx, Nat.le_refl _, fun _ _ h => h⟩ ?_
  rintro p p' t th th' ⟨y, hy, hle, hstay⟩ - - change
  obtain ⟨z, hz, hchange⟩ := (change e).board hy
  refine ⟨z, hz, ?_⟩
  rcases hchange with ⟨hreleases, hboard⟩ | ⟨hreleases, -⟩
  · refine ⟨by omega, fun h name hname => ?_⟩
    have hname := hstay (by omega) name hname
    rcases hboard with hboard | ⟨b, hboard⟩
    · unfold Switchboard.get? at hname ⊢
      rwa [hboard]
    · rw [hboard, Switchboard.get?_commit]
      split_ifs
      · rfl
      · exact hname
  · exact ⟨by omega, fun h => absurd h (by omega)⟩

theorem Run.unique (run : Run host (start E memory programs) past p) {x : Entry E.Context}
    (hx : p.entry? e = some x) : x.board.Unique := by
  refine run.keeps_of_change (I := fun p => ∀ x, p.entry? e = some x → x.board.Unique)
    SlotMap.sound_empty ?_ ?_ x hx
  · intro x hx
    rw [entry?_start] at hx
    cases hx
  · intro p p' t th th' unique _ _ change y (hy : p'.entry? e = some y)
    cases hx : p.entry? e with
    | some x =>
      obtain ⟨z, hz, hchange⟩ := (change e).board hx
      obtain rfl := Option.some.inj (hy.symm.trans hz)
      rcases hchange with ⟨-, hboard | ⟨b, hboard⟩⟩ | ⟨-, hboard⟩
      · unfold Switchboard.Unique
        rw [hboard]
        exact unique x hx
      · exact hboard ▸ (unique x hx).commit b
      · exact hboard ▸ Switchboard.unique_clear _
    | none =>
      obtain ⟨c, rfl⟩ := (change e).fresh hx hy
      exact Switchboard.unique_empty

theorem Run.exists_entry (run : Run host (start E memory programs) past p) {i : Interpreter}
    (hi : p.interpreter? js = some i) : ∃ x, p.entry? ⟨js.index⟩ = some x := by
  have : js.index < p.entries.size := run.sizes rfl ▸ lt_size_of_interpreter? hi
  exact ⟨_, Array.getElem?_eq_getElem this⟩

/-! ## Names at an instant -/

section Instants

variable {b d : Process E σ} {before during : List (Moment E σ)} {x : Entry E.Context}

/-- The engine of an interpreter that is not closed is not released. -/
theorem Run.releases_eq_zero (run : Run host (start E memory programs) past p)
    (room : p.directory.slots.size ≤ 2 ^ 32) (live : (p.handleOf js).isNull = false)
    {x : Entry E.Context} (hx : p.entry? ⟨js.index⟩ = some x) : x.releases = 0 := by
  obtain ⟨i, hi, hw, -⟩ := exists_of_handleOf live
  by_contra h
  have closed := (run.releases_iff room hx).1 (Nat.pos_of_ne_zero h)
  obtain ⟨i', hi', hw'⟩ := (run.closed_iff _).1 closed
  obtain rfl := Option.some.inj (hi.symm.trans hi')
  exact hw hw'

theorem Run.names_eq_nil (run : Run host (start E memory programs) past p)
    (hx : p.entry? e = some x) (released : 0 < x.releases) : x.board.names = [] := by
  rw [((run.kept e).entry hx).cleared released]
  exact Switchboard.names_eq_nil_iff.2 fun _ => rfl

variable (toB : Run host (start E memory programs) before b) (run : Run host b during d)
  (room : d.directory.slots.size ≤ 2 ^ 32) (first : (b.handleOf js).isNull = false)
  (hx : d.entry? ⟨js.index⟩ = some x)

include toB run room first hx

/-- Where the names in the end are those of an instant before the close, no name came in between, or
there was none at first. -/
theorem Run.of_names_eq {s : Process E σ} (hs : s ∈ instants during d)
    (live : (s.handleOf js).isNull = false)
    (names : (s.boardOf ⟨js.index⟩).names = x.board.names) :
    0 < x.releases ∧ (b.boardOf ⟨js.index⟩).names = [] ∨
    x.releases = 0 ∧ ∀ r ∈ instants during d, (r.handleOf js).isNull = true →
      (r.boardOf ⟨js.index⟩).names = x.board.names := by
  obtain ⟨early, late, toS, fromS, -⟩ := run.split_instants hs
  obtain ⟨i, hi, -, -⟩ := exists_of_handleOf first
  obtain ⟨w, hw⟩ := toB.exists_entry hi
  have soundB := toB.sound SlotMap.sound_empty
  obtain ⟨y, hy, hle, hstay⟩ := toS.entry soundB hw
  have toS' := toB.trans toS
  have hzero : y.releases = 0 :=
    toS'.releases_eq_zero (Nat.le_trans fromS.size_le room) live hy
  rw [boardOf_eq hy] at names
  rcases Nat.eq_zero_or_pos x.releases with none | released
  · refine Or.inr ⟨none, fun r hr closed => ?_⟩
    obtain ⟨earlier, later, toR, fromR, -⟩ := run.split_instants hr
    -- a closed interpreter stays closed, so `r` comes after `s`
    obtain ⟨between, hbetween⟩ | ⟨between, hbetween⟩ := run.total_instants hs hr
    · obtain ⟨z, hz, -, hstay₁⟩ := hbetween.entry (toS'.sound SlotMap.sound_empty) hy
      have toR' := toS'.trans hbetween
      obtain ⟨x', hx', hle', hstay₂⟩ := fromR.entry (toR'.sound SlotMap.sound_empty) hz
      obtain rfl := Option.some.inj (hx.symm.trans hx')
      have toD := toR'.trans fromR
      rw [boardOf_eq hz, ← names]
      refine (Switchboard.names_eq_iff (toR'.unique hz) (toS'.unique hy)).2 fun name =>
        ⟨fun h => ?_, hstay₁ (by omega) name⟩
      have := (Switchboard.names_eq_iff (toS'.unique hy) (toD.unique hx)).1 names name
      exact this.2 (hstay₂ (by omega) name h)
    · obtain ⟨j, hj⟩ := toR.exists_interpreter hi
      rw [hbetween.isNull_handleOf hj closed] at live
      cases live
  · refine Or.inl ⟨released, ?_⟩
    rw [(toB.trans run).names_eq_nil hx released, Switchboard.names_eq_nil_iff] at names
    rw [boardOf_eq hw, Switchboard.names_eq_nil_iff]
    intro name
    by_contra h
    have := hstay (by omega) name (Option.isSome_iff_ne_none.2 h)
    rw [names name] at this
    cases this

/-- The names in the end are those of an instant before the close unless a close came in between and
took names away or let one come. -/
theorem Run.names_iff :
    (∃ s ∈ instants during d, (s.handleOf js).isNull = false ∧
      (s.boardOf ⟨js.index⟩).names = x.board.names) ↔
    (d.handleOf js).isNull = false ∨
    0 < x.releases ∧ (b.boardOf ⟨js.index⟩).names = [] ∨
    x.releases = 0 ∧ ∀ r ∈ instants during d, (r.handleOf js).isNull = true →
      (r.boardOf ⟨js.index⟩).names = x.board.names := by
  constructor
  · rintro ⟨s, hs, live, names⟩
    exact Or.inr (toB.of_names_eq run room first hx hs live names)
  · have last (live : (d.handleOf js).isNull = false) :
        ∃ s ∈ instants during d, (s.handleOf js).isNull = false ∧
          (s.boardOf ⟨js.index⟩).names = x.board.names :=
      ⟨d, mem_instants_self _ _, live, by rw [boardOf_eq hx]⟩
    rintro (live | ⟨released, names⟩ | ⟨-, after⟩)
    · exact last live
    · refine ⟨b, run.mem_instants, first, ?_⟩
      rw [names, (toB.trans run).names_eq_nil hx released]
    · cases hd : (d.handleOf js).isNull with
      | false => exact last hd
      | true =>
        -- the step that closes the interpreter changes no board
        obtain ⟨⟨p, t⟩, hm, r, hr, live, closed, next⟩ :=
          run.crossing (P := fun p => (p.handleOf js).isNull = false) first (by rw [hd]; nofun)
        obtain ⟨th, p', th', -, act, rfl⟩ := step?_eq_some_iff.1 next
        obtain ⟨i, hi, hw, -⟩ := exists_of_handleOf live
        obtain ⟨i', hi', hw' | ⟨-, entries⟩⟩ := act.registryStep.interpreter? hi
        · have hnull : i'.word = 0 :=
            (isNull_handleOf_iff (p := p'.setThread t th') hi').1 (by simpa using closed)
          exact absurd (hw'.symm.trans hnull) hw
        · refine ⟨p, mem_instants_of_mem hm d, live, ?_⟩
          rw [← after _ hr (by simpa using closed)]
          unfold boardOf entry?
          rw [entries_setThread, entries]

end Instants

/-! ## One call -/

/-- A thread asks for the names of an interpreter in the step from `b`, looks the entry up in the
step from `c` and reads the names in the step from `d`. In between others do anything. -/
structure Call (host : Host σ) (js : InterpreterId) (t : ThreadId) (th : Thread E.Context σ)
    (next : (Request.use js .globals).Reply → Program σ MethodResult)
    (b b' c c' d d' : Process E σ) (first second : List (Moment E σ)) : Prop where
  at_t : b.threads[t.index]? = some th
  stage : th.stage = .host (.ask (.use js .globals) next)
  load : b.step? host t = some b'
  wait : Run host b' first c ∧ ∀ m ∈ first, m.thread ≠ t
  find : c.step? host t = some c'
  wait' : Run host c' second d ∧ ∀ m ∈ second, m.thread ≠ t
  read : d.step? host t = some d'

/-- The moments of a call up to its last step. -/
def callMoments (t : ThreadId) (b c : Process E σ) (first second : List (Moment E σ)) :
    List (Moment E σ) := second ++ ⟨c, t⟩ :: (first ++ [⟨b, t⟩])

section Call

variable {next : (Request.use js .globals).Reply → Program σ MethodResult}
  {b b' c c' d d' : Process E σ} {first second : List (Moment E σ)}

theorem Call.run (call : Call host js t th next b b' c c' d d' first second) :
    Run host b (callMoments t b c first second) d :=
  (((Run.refl.step call.load).trans call.wait.1).step call.find).trans call.wait'.1

/-- The thread is told that the interpreter is closed, or the names on the board of its entry as it
reads them. -/
theorem Call.answer (call : Call host js t th next b b' c c' d d' first second)
    (toB : Run host (start E memory programs) past b) (room : d.directory.slots.size ≤ 2 ^ 32) :
    b'.threads[t.index]? = some { th with stage := .host (next (.error .closed)) } ∨
    c'.threads[t.index]? = some { th with stage := .host (next (.error .closed)) } ∨
    (b.handleOf js).isNull = false ∧ ∃ x, d.entry? ⟨js.index⟩ = some x ∧
      d'.threads[t.index]? = some { th with stage := .host (next (.ok x.board.names)) } := by
  cases hn : (b.handleOf js).isNull with
  | true =>
    left
    rw [(Act.useClosed call.stage hn).eq_of_step? call.at_t call.load]
    exact getElem?_setThread_self call.at_t
  | false =>
    right
    have hload := (Act.use call.stage hn nofun).eq_of_step? call.at_t call.load
    have at_c := call.wait.1.thread_eq call.wait.2
    rw [hload, getElem?_setThread_self call.at_t] at at_c
    have toC : Run host b (first ++ [⟨b, t⟩]) c := (Run.refl.step call.load).trans call.wait.1
    have fromC : Run host c (second ++ [⟨c, t⟩]) d := (Run.refl.step call.find).trans call.wait'.1
    have owned := (toB.owned_handleOf hn toC (Nat.le_trans fromC.size_le room)).get?
    rcases owned with found | gone
    · right
      refine ⟨rfl, ?_⟩
      have hfind := (Act.findGlobals rfl found).eq_of_step? at_c call.find
      have at_d := call.wait'.1.thread_eq call.wait'.2
      rw [hfind, getElem?_setThread_self at_c] at at_d
      obtain ⟨i, hi, -, -⟩ := exists_of_handleOf hn
      obtain ⟨x, hx⟩ := toB.exists_entry hi
      obtain ⟨y, hy, -, -⟩ := call.run.entry (toB.sound SlotMap.sound_empty) hx
      refine ⟨y, hy, ?_⟩
      rw [(Act.names rfl hy).eq_of_step? at_d call.read]
      exact getElem?_setThread_self at_d
    · left
      rw [(Act.findClosed rfl gone).eq_of_step? at_c call.find]
      exact getElem?_setThread_self at_c

/-- The thread is told that the interpreter is closed, or is told names. These are the names of an
instant of the call at which the interpreter was not closed unless a close came in between and took
names away or let one come. -/
theorem names_of_instant_iff (call : Call host js t th next b b' c c' d d' first second)
    (toB : Run host (start E memory programs) past b) (room : d.directory.slots.size ≤ 2 ^ 32) :
    b'.threads[t.index]? = some { th with stage := .host (next (.error .closed)) } ∨
    c'.threads[t.index]? = some { th with stage := .host (next (.error .closed)) } ∨
    ∃ x, d.entry? ⟨js.index⟩ = some x ∧
      d'.threads[t.index]? = some { th with stage := .host (next (.ok x.board.names)) } ∧
      ((∃ s ∈ instants (callMoments t b c first second) d, (s.handleOf js).isNull = false ∧
          (s.boardOf ⟨js.index⟩).names = x.board.names) ↔
        (d.handleOf js).isNull = false ∨
        0 < x.releases ∧ (b.boardOf ⟨js.index⟩).names = [] ∨
        x.releases = 0 ∧ ∀ r ∈ instants (callMoments t b c first second) d,
          (r.handleOf js).isNull = true → (r.boardOf ⟨js.index⟩).names = x.board.names) := by
  rcases call.answer toB room with h | h | ⟨live, x, hx, answer⟩
  · exact Or.inl h
  · exact Or.inr (Or.inl h)
  · exact Or.inr (Or.inr ⟨x, hx, answer, toB.names_iff call.run room live hx⟩)

end Call

/-- Tells whether there were names. -/
def tell : Except BridgeFault (List String) → Program Unit MethodResult
  | .ok names => .done (.ok (.bool !names.isEmpty))
  | .error fault => .done (.error fault.message)

/-- One thread binds an object and asks for the names, another closes the interpreter. -/
def survey : Process .relay Unit :=
  start .relay ()
    [.ask (.create default) fun _ =>
      .ask (.use ⟨0⟩ (.bind "door" ⟨"Door", false, [], [⟨"shut", [], .void⟩]⟩ ⟨0⟩)) fun _ =>
      .ask (.use ⟨0⟩ .globals) tell,
      .ask (.close ⟨0⟩) fun _ => .done (.ok .void)]

/-- Closed between the lookup and the reading, the interpreter is said to have no names, although it
had one as long as it was not closed. -/
theorem names_of_no_instant :
    ∃ (b b' c' d d' : Process .relay Unit) (past second : List (Moment .relay Unit)),
      Run closer survey past b ∧
      Call closer ⟨0⟩ ⟨0⟩ ⟨.host (.ask (.use ⟨0⟩ .globals) tell), [], []⟩ tell b b' b' c' d d' []
        second ∧
      d'.threads[0]? = some ⟨.host (tell (.ok [])), [], []⟩ ∧
      ¬ ∃ s ∈ instants (callMoments ⟨0⟩ b b' [] second) d,
        (s.handleOf ⟨0⟩).isNull = false ∧ (s.boardOf ⟨0⟩).names = [] := by
  obtain ⟨b, b', c', d, d', reached, at_t, load, at_b, find, at_c, closing, read, null, published,
      x, hx, released, room⟩ :
      ∃ b b' c' d d' : Process .relay Unit, survey.follow closer (List.replicate 11 ⟨0⟩) = some b ∧
        b.threads[0]? = some ⟨.host (.ask (.use ⟨0⟩ .globals) tell), [], []⟩ ∧
        b.step? closer ⟨0⟩ = some b' ∧
        b'.threads[0]? = some ⟨.find ⟨0, 1⟩ .globals tell, [], []⟩ ∧
        b'.step? closer ⟨0⟩ = some c' ∧ c'.threads[0]? = some ⟨.names ⟨0⟩ tell, [], []⟩ ∧
        c'.follow closer (List.replicate 5 ⟨1⟩) = some d ∧ d.step? closer ⟨0⟩ = some d' ∧
        (d.handleOf ⟨0⟩).isNull = true ∧ ((b.boardOf ⟨0⟩).get? "door").isSome = true ∧
        ∃ x, d.entry? ⟨0⟩ = some x ∧ x.releases = 1 ∧ d.directory.slots.size ≤ 2 ^ 32 :=
    ⟨_, _, _, _, _, rfl, rfl, rfl, rfl, rfl, rfl, rfl, rfl, rfl, rfl, _, rfl, rfl, by decide⟩
  have waits : ∀ m ∈ c'.moments closer (List.replicate 5 ⟨1⟩), m.thread ≠ ⟨0⟩ :=
    thread_ne_of_mem_moments (by decide)
  have call : Call closer ⟨0⟩ ⟨0⟩ _ tell b b' b' c' d d' []
      (c'.moments closer (List.replicate 5 ⟨1⟩)) :=
    { at_t
      stage := rfl
      load
      wait := ⟨.refl, nofun⟩
      find
      wait' := ⟨.of_follow closing, waits⟩
      read }
  have toB : Run closer survey _ b := .of_follow reached
  have names : x.board.names = [] := (toB.trans call.run).names_eq_nil hx (by omega)
  rcases names_of_instant_iff call toB room with h | h | ⟨y, hy, answer, iff⟩
  · rw [at_b] at h
    nomatch h
  · rw [at_c] at h
    nomatch h
  · obtain rfl := Option.some.inj (hx.symm.trans hy)
    rw [names] at answer iff
    refine ⟨b, b', c', d, d', _, _, toB, call, answer, fun h => ?_⟩
    rcases iff.1 h with live | ⟨-, none⟩ | ⟨zero, -⟩
    · rw [null] at live
      cases live
    · rw [Switchboard.names_eq_nil_iff.1 none "door"] at published
      cases published
    · omega

end Drawbridge.Process
