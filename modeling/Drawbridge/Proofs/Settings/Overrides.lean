import Drawbridge.Proofs.Json.Skip
import Drawbridge.Proofs.Settings.RoundTrip
import Drawbridge.Proofs.Settings.Values

/-!
# Settings that name some of the fields

An object with any members, in any order and with blanks anywhere, is read as the default with exactly
the fields replaced that it names (`read_object`).  It is refused if a field comes twice or has a value
that is not of its type, if a key is no text (`read_lone_surrogate_key`), or if anything comes behind
it.  Objects are what the grammar has with a brace in front (`exists_object_iff`).
-/

namespace Drawbridge.Settings

open Json Json.Reader

/-! ## Objects -/

/-- The units of a key, and the text of its value. -/
abbrev Member := Utf16 × List Char

/-- The members that still come behind a member, up to the brace. -/
inductive Members : List Member → List Char → Prop
  | close {a : List Char} : Blanks a → Members [] (a ++ ['\x7d'])
  | next {a b k b' v cs : List Char} {us : List UInt16} {ms : List Member} :
      Blanks a → Blanks b → Key k us → Blanks b' → WellFormed .value v → Members ms cs →
      Members ((.ofUnits us, v) :: ms) (a ++ ',' :: (b ++ (k ++ (b' ++ (v ++ cs)))))

/-- An object with its members. -/
inductive Object : List Member → List Char → Prop
  | empty {b : List Char} : Blanks b → Object [] ('\x7b' :: (b ++ ['\x7d']))
  | members {b k b' v cs : List Char} {us : List UInt16} {ms : List Member} :
      Blanks b → Key k us → Blanks b' → WellFormed .value v → Members ms cs →
      Object ((.ofUnits us, v) :: ms) ('\x7b' :: (b ++ (k ++ (b' ++ (v ++ cs)))))

variable {a b k v cs rest before after : List Char} {us : List UInt16} {ms : List Member}
  {m : Member} {s t : Settings} {seen : List Field} {f : Field} {n : Nat}

theorem exists_members (h : WellFormed .members cs) : ∃ ms, Members ms cs := by
  generalize hform : Form.members = form at h
  induction h with
  | endOfMembers ha => exact ⟨[], .close ha⟩
  | nextMember ha hb hk hb' hv _ _ members =>
    obtain ⟨ms, hms⟩ := members rfl
    exact ⟨_, .next ha hb hk hb' hv hms⟩
  | _ => cases hform

theorem Members.wellFormed (h : Members ms cs) : WellFormed .members cs := by
  induction h with
  | close ha => exact .endOfMembers ha
  | next ha hb hk hb' hv _ ih => exact .nextMember ha hb hk hb' hv ih

/-- The objects are the well-formed values that begin with a brace. -/
theorem exists_object_iff :
    (∃ ms, Object ms cs) ↔ WellFormed .value cs ∧ cs.head? = some '\x7b' := by
  constructor
  · rintro ⟨ms, h⟩
    cases h with
    | empty hb => exact ⟨.emptyObject hb, rfl⟩
    | members hb hk hb' hv hms => exact ⟨.object hb hk hb' hv hms.wellFormed, rfl⟩
  · rintro ⟨h, brace⟩
    cases h with
    | emptyObject hb => exact ⟨[], .empty hb⟩
    | object hb hk hb' hv hcs =>
      obtain ⟨ms, hms⟩ := exists_members hcs
      exact ⟨_, .members hb hk hb' hv hms⟩
    | number h =>
      obtain ⟨d, tail, rfl, digit⟩ := h.exists_cons
      exact absurd (Option.some.inj brace) (ne_of_isDigit digit rfl)
    | _ => exact absurd (Option.some.inj brace) (by decide)

theorem Members.ends (h : Members ms cs) (rest : List Char) : Ends (cs ++ rest) := by
  cases h with
  | close ha | next ha =>
    rw [List.append_assoc]
    exact ha.ends (by rintro _ ⟨⟩; decide)

/-! ## Members read -/

/-- What one member makes of the settings and of the fields seen. -/
def Step (m : Member) (s : Settings) (seen : List Field) (out : Settings × List Field) : Prop :=
  ∃ key, m.1.toString? = some key ∧
    match Field.ofKey? key with
    | some f => f ∉ seen ∧ ∃ t, Assigned m.2 f s t ∧ out = (t, f :: seen)
    | none => out = (s, seen)

theorem fails_duplicate {α : Type} (f : Field) (input : List Char) :
    (duplicate f : Reader α).Fails input := by
  unfold duplicate
  refine bind_fails (fun c mid => ?_) _
  split
  · exact bind_fails (fun _ mid => fails_fail _ mid) mid
  · exact fails_fail _ mid

theorem takes_readColon_blanks (hb : Blanks b) (rest : List Char) :
    readColon.Takes (b ++ ':' :: rest) () rest :=
  (takes_peekToken? b hb (by simp; decide)).bind (takes_advance ':' rest)

theorem decides_readMember (s : Settings) (seen : List Field) (hk : Key k us) (hb : Blanks b)
    (hv : WellFormed .value v) (ends : Ends rest) :
    (readMember s seen).Decides (k ++ (b ++ (v ++ rest))) (Step (.ofUnits us, v) s seen) rest := by
  obtain @⟨cs, b', us, hcs, hb'⟩ := hk
  simp only [List.cons_append, List.append_assoc]
  refine (takes_advance '"' _).bind_decides <| (decides_text hcs _).bind fun key _ => ?_
  have colon := takes_readColon_blanks hb' (b ++ (v ++ rest))
  cases Field.ofKey? key with
  | none =>
    exact (colon.bind ((takes_skip hb hv ends).bind (takes_pure (s, seen) rest))).decides
      fun _ => Iff.rfl
  | some f =>
    by_cases old : f ∈ seen
    · simp only [List.contains_iff_mem, if_pos old]
      exact (fails_duplicate f _).decides fun _ h => h.1 old
    · simp only [List.contains_iff_mem, if_neg old]
      exact (colon.bind_decides ((decides_readField s f hb hv ends).bind fun t _ =>
        (takes_pure (t, f :: seen) rest).decides fun _ => Iff.rfl)).congr fun _ => and_iff_right old

/-- What members read in turn make of the settings. -/
def Reads : List Member → Settings → List Field → Settings → Prop
  | [], s, _, t => t = s
  | m :: ms, s, seen, t => ∃ out, Step m s seen out ∧ Reads ms out.1 out.2 t

theorem decides_readMembers (h : Members ms cs) (hn : cs.length ≤ n) (rest : List Char) :
    (readMembers n s seen).Decides (cs ++ rest) (Reads ms s seen) rest := by
  induction h generalizing n s seen with
  | @close a ha =>
    obtain _ | n := n
    · simp at hn
    rw [readMembers, List.append_assoc]
    exact ((takes_peekToken? a ha (by simp; decide)).bind <| (takes_advance '\x7d' rest).seqRight
      (takes_pure s rest)).decides fun _ => Iff.rfl
  | @next a b k b' v cs us ms ha hb hk hb' hv hms ih =>
    obtain _ | n := n
    · simp at hn
    simp only [List.length_append, List.length_cons] at hn
    have one := decides_readMember s seen hk hb' hv (hms.ends rest)
    obtain ⟨tail, rfl⟩ := hk.exists_cons
    rw [readMembers]
    simp only [List.append_assoc, List.cons_append] at one ⊢
    refine (takes_peekToken? a ha (by simp; decide)).bind_decides <|
      (takes_advance ',' _).bind_decides <|
      (takes_peekToken? b hb (by simp; decide)).bind_decides <| one.bind fun out _ => ?_
    exact ih (by omega)

theorem decides_readObject (h : Object ms ('\x7b' :: cs)) (rest : List Char) :
    readObject.Decides (cs ++ rest) (Reads ms default []) rest := by
  cases h with
  | @empty b hb =>
    rw [List.append_assoc]
    exact ((takes_peekToken? b hb (by simp; decide)).bind <| (takes_advance '\x7d' rest).seqRight
      (takes_pure default rest)).decides fun _ => Iff.rfl
  | @members b k b' v cs us ms hb hk hb' hv hms =>
    have one := decides_readMember default [] hk hb' hv (hms.ends rest)
    obtain ⟨tail, rfl⟩ := hk.exists_cons
    simp only [List.append_assoc, List.cons_append] at one ⊢
    refine (takes_peekToken? b hb (by simp; decide)).bind_decides <| one.bind fun out _ => ?_
    exact (takes_fuel _).bind_decides (decides_readMembers hms (by simp only [List.length_append]; omega) rest)

/-! ## The fields named -/

/-- How often a field is named. -/
def times (f : Field) (ms : List Member) : Nat := ms.countP fun m => m.1 = .ofString f.key

/-- `t` is `s` with exactly the fields replaced that are named. -/
def Overrides (ms : List Member) (s t : Settings) : Prop :=
  ∀ f : Field, (∀ v, (.ofString f.key, v) ∈ ms → Holds v t f) ∧
    ((∀ v, (.ofString f.key, v) ∉ ms) → Agree t s f)

/-- A field that was seen may not come again, any other may come once. -/
def Fresh (ms : List Member) (seen : List Field) : Prop :=
  ∀ f, times f ms ≤ if f ∈ seen then 0 else 1

theorem key_of_ofKey? {key : String} (h : Field.ofKey? key = some f) : key = f.key := by
  have found : (f.key == key) = true := List.find?_some (p := fun f => Field.key f == key) h
  exact (eq_of_beq found).symm

theorem ofString_of_toString? {us : Utf16} {key : String} (h : us.toString? = some key) :
    us = .ofString key :=
  (Utf16.ofString_of_decode (Utf16.toString?_eq_some_iff.1 h)).symm

theorem ofString_inj {x y : String} (h : Utf16.ofString x = .ofString y) : x = y := by
  simpa using congrArg Utf16.toString? h

theorem key_inj {g : Field} (h : Utf16.ofString f.key = .ofString g.key) : f = g := by
  have h := congrArg Field.ofKey? (ofString_inj h)
  rw [ofKey?_key, ofKey?_key] at h
  exact Option.some.inj h

theorem times_cons (f : Field) (m : Member) (ms : List Member) :
    times f (m :: ms) = times f ms + if m.1 = .ofString f.key then 1 else 0 := by
  simp [times, List.countP_cons]

theorem notMem_of_times (h : times f ms = 0) (v : List Char) : (.ofString f.key, v) ∉ ms := by
  intro hv
  have := List.countP_eq_zero.1 h _ hv
  simp at this

theorem fresh_cons_field (v : List Char) :
    Fresh ((.ofString f.key, v) :: ms) seen ↔ f ∉ seen ∧ Fresh ms (f :: seen) := by
  have count (g : Field) : times g ((.ofString f.key, v) :: ms)
      = times g ms + if f = g then 1 else 0 := by
    rw [times_cons]
    by_cases hg : f = g
    · rw [if_pos hg, if_pos (congrArg _ (congrArg _ hg))]
    · rw [if_neg hg, if_neg (mt key_inj hg)]
  simp only [Fresh, count, List.mem_cons]
  constructor
  · intro h
    have new : f ∉ seen := by
      intro old
      simpa [old] using h f
    refine ⟨new, fun g => ?_⟩
    have hg := h g
    by_cases same : f = g
    · subst same
      simpa [new] using hg
    · simpa [same, Ne.symm same] using hg
  · rintro ⟨new, h⟩ g
    have hg := h g
    by_cases same : f = g
    · subst same
      simpa [new] using hg
    · simpa [same, Ne.symm same] using hg

theorem fresh_cons_other (h : ∀ f : Field, m.1 ≠ .ofString f.key) :
    Fresh (m :: ms) seen ↔ Fresh ms seen := by
  simp only [Fresh, times_cons, if_neg (h _), Nat.add_zero]

theorem agree_copy_self (t s : Settings) (f : Field) : Agree (t.copy s f) t f := by
  cases f <;> rfl

theorem agree_copy_of_ne (t s : Settings) {f g : Field} (h : g ≠ f) : Agree (t.copy s f) s g := by
  cases f <;> cases g <;> first | rfl | exact absurd rfl h

/-- The field of the first member is set first, and no later member names it. -/
theorem overrides_cons_field (once : times f ms = 0) :
    Overrides ((.ofString f.key, v) :: ms) s t ↔ ∃ u, Assigned v f s u ∧ Overrides ms u t := by
  constructor
  · intro h
    refine ⟨t.copy s f, ⟨(agree_copy_self t s f).holds ((h f).1 v (List.mem_cons_self ..)),
      fun g => agree_copy_of_ne t s⟩, fun g => ⟨fun w hw => (h g).1 w (List.mem_cons_of_mem _ hw),
      fun none => ?_⟩⟩
    by_cases hg : g = f
    · exact hg ▸ (agree_copy_self t s f).symm
    · refine ((h g).2 fun w hw => ?_).trans (agree_copy_of_ne t s hg).symm
      obtain ⟨same, -⟩ | later := (List.mem_cons.1 hw).imp_left Prod.mk.inj
      · exact hg (key_inj same)
      · exact none w later
  · rintro ⟨u, ⟨hv, others⟩, h⟩ g
    by_cases hg : g = f
    · subst hg
      refine ⟨fun w hw => ?_, fun none => absurd (List.mem_cons_self ..) (none v)⟩
      obtain ⟨-, rfl⟩ | later := (List.mem_cons.1 hw).imp_left Prod.mk.inj
      · exact ((h g).2 (notMem_of_times once)).holds hv
      · exact absurd later (notMem_of_times once w)
    · refine ⟨fun w hw => ?_, fun none => ?_⟩
      · obtain ⟨same, -⟩ | later := (List.mem_cons.1 hw).imp_left Prod.mk.inj
        · exact absurd (key_inj same) hg
        · exact (h g).1 w later
      · exact ((h g).2 fun w hw => none w (List.mem_cons_of_mem _ hw)).trans (others g hg)

theorem overrides_cons_other (h : ∀ f : Field, m.1 ≠ .ofString f.key) :
    Overrides (m :: ms) s t ↔ Overrides ms s t := by
  have same (f : Field) (v : List Char) :
      (Utf16.ofString f.key, v) ∈ m :: ms ↔ (Utf16.ofString f.key, v) ∈ ms :=
    ⟨fun hv => (List.mem_cons.1 hv).resolve_left fun hm => h f (congrArg Prod.fst hm).symm,
      List.mem_cons_of_mem _⟩
  simp only [Overrides, same]

/-- What members say in turn, they say all at once: their order does not matter. -/
theorem reads_iff :
    Reads ms s seen t ↔
      (∀ m ∈ ms, Utf16.Paired m.1.units) ∧ Fresh ms seen ∧ Overrides ms s t := by
  induction ms generalizing s seen with
  | nil =>
    constructor
    · rintro rfl
      exact ⟨nofun, fun f => Nat.zero_le _, fun f => ⟨nofun, fun _ => by cases f <;> rfl⟩⟩
    · rintro ⟨-, -, h⟩
      exact eq_of_agree fun f => (h f).2 nofun
  | cons m ms ih =>
    obtain ⟨us, v⟩ := m
    rw [List.forall_mem_cons, ← Utf16.exists_toString?_iff]
    simp only [Reads, Step, ih]
    cases hkey : us.toString? with
    | none => simp
    | some key =>
      have hus := ofString_of_toString? hkey
      cases hf : Field.ofKey? key with
      | none =>
        have other (f : Field) : us ≠ .ofString f.key := by
          intro same
          obtain rfl := ofString_inj (hus.symm.trans same)
          rw [ofKey?_key] at hf
          cases hf
        rw [fresh_cons_other other, overrides_cons_other other]
        simp [hf]
      | some f =>
        obtain rfl := key_of_ofKey? hf
        subst hus
        rw [fresh_cons_field]
        constructor
        · rintro ⟨out, ⟨key, hkey', step⟩, proper, fresh, rest⟩
          obtain rfl := Option.some.inj hkey'
          rw [hf] at step
          obtain ⟨new, u, set, rfl⟩ := step
          have once : times f ms = 0 := by simpa using fresh f
          exact ⟨⟨⟨_, rfl⟩, proper⟩, ⟨new, fresh⟩, (overrides_cons_field once).2 ⟨u, set, rest⟩⟩
        · rintro ⟨⟨-, proper⟩, ⟨new, fresh⟩, overrides⟩
          have once : times f ms = 0 := by simpa using fresh f
          obtain ⟨u, set, rest⟩ := (overrides_cons_field once).1 overrides
          refine ⟨(u, f :: seen), ⟨f.key, rfl, ?_⟩, proper, fresh, rest⟩
          rw [hf]
          exact ⟨new, u, set, rfl⟩

/-! ## Whole texts -/

/-- Members that settings are read from. -/
structure Acceptable (ms : List Member) : Prop where
  /-- no surrogate in a key stands alone -/
  proper : ∀ m ∈ ms, Utf16.Paired m.1.units
  /-- no field comes twice -/
  once : ∀ f, times f ms ≤ 1
  /-- the value of a field is of its type -/
  typed : ∀ (f : Field) (v : List Char), (.ofString f.key, v) ∈ ms → ∃ s, Holds v s f

theorem Overrides.unique (hs : Overrides ms default s) (ht : Overrides ms default t) : s = t := by
  refine eq_of_agree fun f => ?_
  by_cases named : ∃ v, (.ofString f.key, v) ∈ ms
  · obtain ⟨v, hv⟩ := named
    exact ((hs f).1 v hv).agree ((ht f).1 v hv)
  · have none := not_exists.1 named
    exact ((hs f).2 none).trans ((ht f).2 none).symm

/-- A field that comes once has one value. -/
theorem Acceptable.value_eq (h : Acceptable ms) {w : List Char} (hv : (.ofString f.key, v) ∈ ms)
    (hw : (.ofString f.key, w) ∈ ms) : v = w := by
  have mem {x : List Char} (hx : (.ofString f.key, x) ∈ ms) :
      (.ofString f.key, x) ∈ ms.filter fun m => m.1 = .ofString f.key :=
    List.mem_filter.2 ⟨hx, decide_eq_true rfl⟩
  have once := h.once f
  rw [times, List.countP_eq_length_filter] at once
  obtain ⟨m, hm⟩ := List.length_eq_one_iff.1
    (Nat.le_antisymm once (List.length_pos_of_mem (mem hv)))
  have hv := mem hv
  have hw := mem hw
  rw [hm, List.mem_singleton] at hv hw
  exact congrArg Prod.snd (hv.trans hw.symm)

theorem Acceptable.exists_overrides (h : Acceptable ms) : ∃ s, Overrides ms default s := by
  have each (f : Field) : ∃ s, (∀ v, (.ofString f.key, v) ∈ ms → Holds v s f) ∧
      ((∀ v, (.ofString f.key, v) ∉ ms) → Agree s default f) := by
    by_cases named : ∃ v, (.ofString f.key, v) ∈ ms
    · obtain ⟨v, hv⟩ := named
      obtain ⟨s, hs⟩ := h.typed f v hv
      exact ⟨s, fun w hw => h.value_eq hv hw ▸ hs, fun none => absurd hv (none v)⟩
    · exact ⟨default, fun v hv => absurd ⟨v, hv⟩ named, fun _ => by cases f <;> rfl⟩
  choose part holds agree using each
  let whole : Settings := ⟨(part .memoryLimit).memoryLimit, (part .maxStackSize).maxStackSize,
    (part .gcThreshold).gcThreshold, (part .defaultFileName).defaultFileName⟩
  have same (f : Field) : Agree whole (part f) f := by cases f <;> rfl
  exact ⟨whole, fun f => ⟨fun v hv => (same f).holds (holds f v hv),
    fun none => (same f).trans (agree f none)⟩⟩

theorem reads_default_iff :
    Reads ms default [] s ↔ Acceptable ms ∧ Overrides ms default s := by
  rw [reads_iff]
  constructor
  · rintro ⟨proper, fresh, overrides⟩
    exact ⟨⟨proper, fun f => by simpa using fresh f, fun f v hv => ⟨s, (overrides f).1 v hv⟩⟩,
      overrides⟩
  · rintro ⟨acceptable, overrides⟩
    exact ⟨acceptable.proper, fun f => by simpa using acceptable.once f, overrides⟩

/-- The object is read from brace to brace. -/
theorem Object.exists_cons (h : Object ms cs) : ∃ tail, cs = '\x7b' :: tail := by
  cases h with
  | empty | members => exact ⟨_, rfl⟩

theorem decides_reader (h : Object ms cs) (hb : Blanks before) (ha : Blanks after) :
    reader.Decides (before ++ (cs ++ after))
      (fun s => Acceptable ms ∧ Overrides ms default s) [] := by
  obtain ⟨tail, rfl⟩ := h.exists_cons
  have last : peekToken?.Takes after none [] := by
    simpa using @takes_peekToken? [] after ha nofun
  refine Decides.congr ((takes_peekToken? before hb (by simp; decide)).bind_decides <|
    ((takes_advance '\x7b' _).seqRight_decides (decides_readObject h after)).bind fun s _ =>
      (last.bind (takes_pure s [])).decides fun _ => Iff.rfl) fun s => ?_
  simp [reads_default_iff]

/-- The first character that is no blank. -/
theorem exists_blanks_append (h : ∃ c ∈ cs, isBlank c = false) :
    ∃ b c tail, cs = b ++ c :: tail ∧ Blanks b ∧ isBlank c = false := by
  induction cs with
  | nil => simp at h
  | cons d cs ih =>
    cases hd : isBlank d with
    | false => exact ⟨[], d, cs, rfl, nofun, hd⟩
    | true =>
      obtain ⟨b, c, tail, rfl, hb, hc⟩ := ih (by simpa [hd] using h)
      exact ⟨d :: b, c, tail, rfl, List.forall_mem_cons.2 ⟨hd, hb⟩, hc⟩

theorem fails_reader (h : Object ms cs) (hb : Blanks before) {extra : List Char}
    (more : ∃ c ∈ extra, isBlank c = false) : reader.Fails (before ++ (cs ++ extra)) := by
  obtain ⟨tail, rfl⟩ := h.exists_cons
  obtain ⟨b, c, extra, rfl, hb', hc⟩ := exists_blanks_append more
  refine (takes_peekToken? before hb (by simp; decide)).bind_fails ?_
  rcases (takes_advance '\x7b' _).seqRight_decides (decides_readObject h (b ++ c :: extra)) with
    ⟨s, -, object⟩ | ⟨-, object⟩
  · exact object.bind_fails <| (takes_peekToken? b hb' (by simpa using hc)).bind_fails <|
      fails_failNext _ _
  · exact object.bind

/-- There are no settings, because the text is malformed. -/
def Rejected (text : String) : Prop :=
  ∃ fault, read text = .error fault ∧ ∀ path, load path (.ok text) = .error (.malformed fault)

theorem rejected_of_fails (h : reader.Fails cs) : Rejected (String.ofList cs) := by
  obtain ⟨fault, h⟩ := h 1 0
  have failed : read (String.ofList cs) = .error fault := by
    rw [read, Cursor.start, String.toList_ofList, h]
    rfl
  exact ⟨fault, failed, fun path => by rw [load, failed]⟩

theorem read_of_takes (h : reader.Takes cs s rest) : read (String.ofList cs) = .ok s := by
  obtain ⟨line, column, h⟩ := h 1 0
  rw [read, Cursor.start, String.toList_ofList, h]
  rfl

theorem Acceptable.read_eq (acceptable : Acceptable ms) (h : Object ms cs) (hb : Blanks before)
    (ha : Blanks after) (overrides : Overrides ms default s) :
    read (String.ofList (before ++ (cs ++ after))) = .ok s := by
  rcases decides_reader h hb ha with ⟨t, good, taken⟩ | ⟨none, -⟩
  · obtain rfl := (good s).1 ⟨acceptable, overrides⟩
    exact read_of_takes taken
  · exact absurd ⟨acceptable, overrides⟩ (none s)

/-- An object that names some fields, each at most once and with a value of its type, is read as the
default with exactly these replaced.  Neither the order of the members matters nor the members that
name no field.  Any other object is rejected, and so is one with more than blanks behind it. -/
theorem read_object (h : Object ms cs) (hb : Blanks before) (ha : Blanks after) :
    let text := String.ofList (before ++ (cs ++ after))
    (Acceptable ms → ∃ s, read text = .ok s ∧ Overrides ms default s ∧
      ∀ t, Overrides ms default t → t = s) ∧
    (Acceptable ms → ∀ ms' cs' before' after', Object ms' cs' → Blanks before' → Blanks after' →
      Acceptable ms' →
      (∀ (f : Field) v, (.ofString f.key, v) ∈ ms' ↔ (.ofString f.key, v) ∈ ms) →
      read (String.ofList (before' ++ (cs' ++ after'))) = read text) ∧
    (¬ Acceptable ms → Rejected text) ∧
    ∀ extra, (∃ c ∈ extra, isBlank c = false) →
      Rejected (String.ofList (before ++ (cs ++ extra))) := by
  refine ⟨fun acceptable => ?_, fun acceptable ms' cs' before' after' h' hb' ha' acceptable' same => ?_,
    fun unacceptable => ?_, fun extra more => rejected_of_fails (fails_reader h hb more)⟩
  · obtain ⟨s, hs⟩ := acceptable.exists_overrides
    exact ⟨s, acceptable.read_eq h hb ha hs, hs, fun t ht => ht.unique hs⟩
  · obtain ⟨s, hs⟩ := acceptable.exists_overrides
    have hs' : Overrides ms' default s := by simpa only [Overrides, same] using hs
    rw [acceptable.read_eq h hb ha hs, acceptable'.read_eq h' hb' ha' hs']
  · rcases decides_reader h hb ha with ⟨s, good, -⟩ | ⟨-, failed⟩
    · exact absurd ((good s).2 rfl).1 unacceptable
    · exact rejected_of_fails failed

/-- A list that nobody asks for, with half a pair in a key, comes before the limit that is named. -/
theorem read_object_nested :
    read "\x7b\"x\":[\x7b\"\\ud800\":-1.5\x7d],\"memory_limit\" :12\x7d\n" =
      .ok { default with memoryLimit := some 12 } := by
  let list := "[\x7b\"\\ud800\":-1.5\x7d]".toList
  let ms : List Member := [("x", list), ("memory_limit", ['1', '2'])]
  let limited : Settings := { default with memoryLimit := some 12 }
  have object : Object ms "\x7b\"x\":[\x7b\"\\ud800\":-1.5\x7d],\"memory_limit\" :12\x7d".toList := by
    have half : Key "\"\\ud800\":".toList [0xd800] :=
      @Key.intro "\\ud800".toList [] _
        (@Spelled.code "d800".toList [] _ _ ⟨rfl, [13, 8, 0, 0], rfl, rfl⟩ .nil) nofun
    have negative : WellFormed .value "-1.5".toList :=
      .negative (@Numeral.intro ['1'] ['.', '5'] [] ⟨⟨nofun, List.all_eq_true.1 rfl⟩, by decide⟩
        (.some ⟨nofun, List.all_eq_true.1 rfl⟩) .none)
    have value : WellFormed .value list :=
      @WellFormed.list [] "\x7b\"\\ud800\":-1.5\x7d".toList [']'] nofun
        (@WellFormed.object [] "\"\\ud800\":".toList [] "-1.5".toList ['\x7d'] _ nofun half nofun
          negative (@WellFormed.endOfMembers [] nofun)) (@WellFormed.endOfItems [] nofun)
    have limit : WellFormed .value ['1', '2'] :=
      .number (@Numeral.intro ['1', '2'] [] [] ⟨⟨nofun, List.all_eq_true.1 rfl⟩, by decide⟩ .none .none)
    have blank : Blanks [' '] := List.all_eq_true.1 rfl
    exact @Object.members [] "\"x\":".toList [] list _ _ _ nofun
      (@Key.intro ['x'] [] _ (spelled_flatMap_writeChar ['x']) nofun) nofun value
      (@Members.next [] [] "\"memory_limit\" :".toList [] ['1', '2'] _ _ _ nofun nofun
        (@Key.intro _ [' '] _ (spelled_flatMap_writeChar "memory_limit".toList) blank) nofun limit
        (@Members.close [] nofun))
  have only (f : Field) (v : List Char) (hv : (.ofString f.key, v) ∈ ms) :
      f = .memoryLimit ∧ v = ['1', '2'] := by
    simp only [ms, List.mem_cons, Prod.mk.injEq, List.not_mem_nil, or_false] at hv
    rcases hv with ⟨hkey, -⟩ | ⟨hkey, rfl⟩
    · have hkey := ofString_inj hkey
      cases f <;> exact absurd hkey (by decide)
    · exact ⟨key_inj (g := .memoryLimit) hkey, rfl⟩
  have holds : Holds ['1', '2'] limited .memoryLimit := .digits ⟨nofun, List.all_eq_true.1 rfl⟩ (by decide)
  have acceptable : Acceptable ms := by
    refine ⟨fun m hm => ?_, fun f => by cases f <;> decide, fun f v hv => ?_⟩
    · rw [← Utf16.exists_toString?_iff]
      simp only [ms, List.mem_cons, List.not_mem_nil, or_false] at hm
      rcases hm with rfl | rfl <;> exact ⟨_, Utf16.toString?_ofString _⟩
    · obtain ⟨rfl, rfl⟩ := only f v hv
      exact ⟨limited, holds⟩
  have overrides : Overrides ms default limited := by
    refine fun f => ⟨fun v hv => ?_, fun none => ?_⟩
    · obtain ⟨rfl, rfl⟩ := only f v hv
      exact holds
    · cases f with
      | memoryLimit => exact absurd (List.mem_cons_of_mem _ (List.mem_cons_self ..)) (none ['1', '2'])
      | _ => rfl
  have newline : Blanks ['\n'] := List.all_eq_true.1 rfl
  obtain ⟨s, hread, -, unique⟩ := (@read_object _ [] ['\n'] _ object nofun newline).1 acceptable
  rw [← unique limited overrides] at hread
  exact hread

/-- A key whose only unit is half a pair spells no text, and the object is rejected although it names
no field. -/
theorem read_lone_surrogate_key :
    let ms : List Member := [(.ofUnits [0xd800], ['0'])]
    Object ms "\x7b\"\\ud800\":0\x7d".toList ∧
    (∀ (f : Field) v, (.ofString f.key, v) ∉ ms) ∧
    read "\x7b\"\\ud800\":0\x7d" = .error ⟨.endOfHexEscape, 1, 9⟩ := by
  refine ⟨?_, fun f v hv => ?_, by decide⟩
  · have half : Key "\"\\ud800\":".toList [0xd800] :=
      @Key.intro "\\ud800".toList [] _
        (@Spelled.code "d800".toList [] _ _ ⟨rfl, [13, 8, 0, 0], rfl, rfl⟩ .nil) nofun
    have zero : WellFormed .value ['0'] :=
      .number (@Numeral.intro ['0'] [] [] ⟨⟨nofun, List.all_eq_true.1 rfl⟩, by decide⟩ .none .none)
    exact @Object.members [] "\"\\ud800\":".toList [] ['0'] _ _ _ nofun half nofun zero
      (@Members.close [] nofun)
  · have hkey := (Prod.mk.inj (List.mem_singleton.1 hv)).1
    cases f <;> exact absurd hkey (by decide)

end Drawbridge.Settings
