import Drawbridge.Settings
import Drawbridge.Proofs.Json.Number
import Drawbridge.Proofs.Json.Text
import Mathlib.Data.List.Nodup

/-!
# Settings written and read

Settings that are written are read as they were (`read_render`).  The text is an object whose members
are read in turn: each sets its own field, and all together they set everything.
-/

namespace Drawbridge.Settings

open Json Json.Reader

variable {s t : Settings} {rest : List Char}

/-! ## Values -/

/-- What may come after a member: the next one, or the end of the object. -/
def Follows (rest : List Char) : Prop :=
  ∀ c ∈ rest.head?, c = ',' ∨ c = '\x7d'

theorem Follows.ends (h : Follows rest) : Ends rest := by
  intro c hc
  rcases h c hc with rfl | rfl <;> decide

theorem takes_readLimit (limit : Option UInt64) (h : Follows rest) :
    readLimit.Takes ((renderLimit limit).toList ++ rest) limit rest := by
  cases limit with
  | none =>
    exact (takes_peekToken?_cons (by decide) _).bind <|
      ((takes_advance 'n' _).seqRight (takes_word ['u', 'l', 'l'] rest)).seqRight (takes_pure none rest)
  | some n =>
    have digits : (renderLimit (some n)).toList = Nat.toDigits 10 n.toNat := by simp [renderLimit]
    have number := Number.takes_read_toDigits n.toNat_lt h.ends
    rw [Nat.toUInt64_eq, UInt64.ofNat_toNat] at number
    rw [digits]
    obtain ⟨c, ds, hds⟩ := List.exists_cons_of_ne_nil (Nat.toDigits_ne_nil (b := 10) (n := n.toNat))
    have digit : c.isDigit = true := isDigit_of_mem_toDigits (hds ▸ List.mem_cons_self ..)
    rw [hds] at number ⊢
    refine (takes_peekToken?_cons (opens_of_isDigit digit).1 _).bind ?_
    simp only [if_neg (ne_of_isDigit digit (c := 'n') rfl),
      if_neg (ne_of_isDigit digit (c := '-') rfl), if_pos digit]
    exact number.bind (takes_pure _ rest)

theorem takes_readName (name : String) (rest : List Char) :
    readName.Takes ((write name).toList ++ rest) name rest := by
  rw [toList_write, List.cons_append, List.append_assoc]
  exact (takes_peekToken?_cons (by decide) _).bind <| (takes_advance '"' _).seqRight <|
    takes_text name rest

/-! ## Members -/

/-- The settings with one field as in other settings. -/
def copy (t s : Settings) : Field → Settings
  | .memoryLimit => { s with memoryLimit := t.memoryLimit }
  | .maxStackSize => { s with maxStackSize := t.maxStackSize }
  | .gcThreshold => { s with gcThreshold := t.gcThreshold }
  | .defaultFileName => { s with defaultFileName := t.defaultFileName }

/-- The text of a member. -/
def member (t : Settings) (f : Field) : List Char :=
  (write f.key).toList ++ ':' :: (t.renderField f).toList

theorem ofKey?_key (f : Field) : Field.ofKey? f.key = some f := by
  cases f <;> decide

theorem takes_readField (f : Field) (h : Follows rest) :
    (readField s f).Takes ((t.renderField f).toList ++ rest) (t.copy s f) rest := by
  cases f with
  | memoryLimit => exact (takes_readLimit t.memoryLimit h).bind (takes_pure _ rest)
  | maxStackSize => exact (takes_readLimit t.maxStackSize h).bind (takes_pure _ rest)
  | gcThreshold => exact (takes_readLimit t.gcThreshold h).bind (takes_pure _ rest)
  | defaultFileName => exact (takes_readName t.defaultFileName rest).bind (takes_pure _ rest)

theorem takes_readColon (rest : List Char) : readColon.Takes (':' :: rest) () rest :=
  (takes_peekToken?_cons (by decide) rest).bind (takes_advance ':' rest)

theorem member_append (t : Settings) (f : Field) (rest : List Char) :
    t.member f ++ rest = '"' ::
      (f.key.toList.flatMap writeChar ++ '"' :: ':' :: ((t.renderField f).toList ++ rest)) := by
  simp [member, toList_write]

theorem takes_peekToken?_member (t : Settings) (f : Field) (rest : List Char) :
    peekToken?.Takes (t.member f ++ rest) (some '"') (t.member f ++ rest) := by
  rw [member_append]
  exact takes_peekToken?_cons (by decide) _

theorem takes_readMember {f : Field} {seen : List Field} (new : f ∉ seen) (h : Follows rest) :
    (readMember s seen).Takes (t.member f ++ rest) (t.copy s f, f :: seen) rest := by
  rw [member_append]
  refine (takes_advance '"' _).bind <| (takes_text f.key _).bind ?_
  simp only [ofKey?_key, List.contains_iff_mem, if_neg new]
  exact (takes_readColon _).bind <| (takes_readField f h).bind <| takes_pure _ rest

/-- The members after the first, with the brace that closes the object. -/
def members (t : Settings) (fs : List Field) (rest : List Char) : List Char :=
  fs.flatMap (fun f => ',' :: t.member f) ++ '\x7d' :: rest

theorem members_cons (f : Field) (fs : List Field) (rest : List Char) :
    t.members (f :: fs) rest = ',' :: (t.member f ++ t.members fs rest) := by
  simp [members]

theorem follows_members (t : Settings) (fs : List Field) (rest : List Char) :
    Follows (t.members fs rest) := by
  intro c hc
  cases fs with
  | nil => exact .inr (Option.some.inj hc).symm
  | cons f fs =>
    rw [members_cons] at hc
    exact .inl (Option.some.inj hc).symm

theorem length_lt_members (t : Settings) (fs : List Field) (rest : List Char) :
    fs.length < (t.members fs rest).length := by
  induction fs with
  | nil => simp [members]
  | cons f fs ih =>
    rw [members_cons, List.length_cons, List.length_cons, List.length_append]
    omega

/-- Members are read to the closing brace, as long as no field comes twice. -/
theorem takes_readMembers {fs seen : List Field} {n : Nat} (distinct : (fs ++ seen).Nodup)
    (hn : fs.length < n) (rest : List Char) :
    (readMembers n s seen).Takes (t.members fs rest) (fs.foldl t.copy s) rest := by
  induction fs generalizing s seen n with
  | nil =>
    obtain ⟨n, rfl⟩ := Nat.exists_eq_succ_of_ne_zero (Nat.ne_zero_of_lt hn)
    exact (takes_peekToken?_cons (by decide) rest).bind <|
      (takes_advance '\x7d' rest).seqRight (takes_pure s rest)
  | cons f fs ih =>
    obtain ⟨n, rfl⟩ := Nat.exists_eq_succ_of_ne_zero (Nat.ne_zero_of_lt hn)
    have later := List.nodup_middle.2 distinct
    have new : f ∉ seen := fun h => (List.nodup_cons.1 distinct).1 (List.mem_append_right fs h)
    have one := takes_readMember (s := s) (t := t) new (follows_members t fs rest)
    rw [members_cons]
    refine (takes_peekToken?_cons (by decide) _).bind <| (takes_advance ',' _).bind ?_
    exact (takes_peekToken?_member t _ _).bind <| one.bind <| ih later (Nat.lt_of_succ_lt_succ hn)

/-! ## Whole texts -/

theorem toList_render (t : Settings) :
    t.render.toList = '\x7b' :: (t.member .memoryLimit ++
      t.members [.maxStackSize, .gcThreshold, .defaultFileName] []) := by
  simp [render, Field.all, member, members]

theorem takes_readObject (t : Settings) :
    readObject.Takes (t.member .memoryLimit ++
      t.members [.maxStackSize, .gcThreshold, .defaultFileName] []) t [] := by
  have one := takes_readMember (s := default) (t := t) List.not_mem_nil (f := .memoryLimit)
    (follows_members t [.maxStackSize, .gcThreshold, .defaultFileName] [])
  refine (takes_peekToken?_member t _ _).bind <| one.bind <| (takes_fuel _).bind ?_
  -- the four fields, copied in turn, leave nothing of the default
  exact takes_readMembers (by decide) (Nat.lt_succ_of_lt (length_lt_members ..)) []

theorem takes_reader (t : Settings) : reader.Takes t.render.toList t [] := by
  rw [toList_render]
  refine (takes_peekToken?_cons (by decide) _).bind <|
    ((takes_advance '\x7b' _).seqRight (takes_readObject t)).bind ?_
  exact (takes_peekToken? [] nofun (by simp)).bind (takes_pure t [])

/-- Settings come back as they were, and are written again in the same way. -/
theorem read_render (t : Settings) :
    read t.render = .ok t ∧ render <$> read t.render = .ok t.render := by
  obtain ⟨line, column, h⟩ := takes_reader t 1 0
  have back : read t.render = .ok t := by
    rw [read, Cursor.start, h]
    rfl
  exact ⟨back, by rw [back]; rfl⟩

end Drawbridge.Settings
