import Drawbridge.Settings
import Drawbridge.Proofs.Json.Number
import Drawbridge.Proofs.Json.Text

/-!
# Values of settings

Of the well-formed JSON values a limit is null or the digits of a number of 64 bits, and a name is a
string in which no surrogate stands alone.  A field is set to what its value says, and refused if it
is of no such form (`decides_readField`).
-/

namespace Drawbridge.Settings

open Json Json.Reader

variable {b v rest : List Char} {s t : Settings}

/-! ## Limits -/

/-- What a limit says: null, or digits of a number that has 64 bits. -/
inductive Limit : List Char → Option UInt64 → Prop
  | null : Limit ['n', 'u', 'l', 'l'] none
  | digits {ds : List Char} {n : UInt64} :
      Digits ds → Nat.ofDigitChars 10 ds 0 = n.toNat → Limit ds (some n)

/-- A value of another type is never taken, whatever it is. -/
theorem fails_refuse {α : Type} (expected : String) (input : List Char) :
    (refuse expected : Reader α).Fails input := by
  unfold refuse
  refine bind_fails (fun c mid => ?_) _
  extract_lets report
  have refused (found : String) (mid : List Char) : (report found).Fails mid := fails_fail _ mid
  have named (found : Reader String) (mid : List Char) : (found >>= report).Fails mid :=
    bind_fails refused mid
  split
  · exact named _ mid
  · exact named _ mid
  · exact named _ mid
  · exact bind_fails (fun _ mid => bind_fails (fun _ mid => named _ mid) mid) mid
  · exact bind_fails (fun _ mid => bind_fails (fun _ mid => named _ mid) mid) mid
  · exact named _ mid
  · exact named _ mid
  · split
    · exact bind_fails (fun _ mid => named _ mid) mid
    · exact named _ mid
  · exact named _ mid

theorem fails_of_notNatural (x : Number) (mid : List Char) :
    x.NotNatural → (match x with
      | .natural n => pure (some n)
      | .negative n => Reader.fail (.wrongValue (describeNumber (.negative n)) "usize")
      | .double x => Reader.fail (.wrongType (describeNumber (.double x)) "usize") :
        Reader (Option UInt64)).Fails mid := by
  intro h
  cases x with
  | natural n => exact absurd rfl (h n)
  | negative m => exact fails_fail _ mid
  | double x => exact fails_fail _ mid

/-- The head of a limit is a digit or that of null. -/
theorem not_limit {c : Char} (hc : v.head? = some c) (digit : c.isDigit = false) (null : c ≠ 'n')
    (limit : Option UInt64) : ¬ Limit v limit := by
  rintro (_ | ⟨⟨some, digits⟩, -⟩)
  · exact null (Option.some.inj hc).symm
  · rw [digits c (List.mem_of_mem_head? hc)] at digit
    cases digit

theorem limit_null_iff {limit : Option UInt64} :
    Limit ['n', 'u', 'l', 'l'] limit ↔ limit = none := by
  constructor
  · rintro (_ | ⟨digits, -⟩)
    · rfl
    · cases digits.2 'n' (List.mem_cons_self ..)
  · rintro rfl
    exact .null

theorem limit_digits_iff (digits : Digits v) (fits : Nat.ofDigitChars 10 v 0 < UInt64.size)
    {limit : Option UInt64} : Limit v limit ↔ limit = some (Nat.ofDigitChars 10 v 0).toUInt64 := by
  have toNat := UInt64.toNat_ofNat_of_lt' fits
  constructor
  · rintro (_ | ⟨-, value⟩)
    · cases digits.2 'n' (List.mem_cons_self ..)
    · rw [value, Nat.toUInt64_eq, UInt64.ofNat_toNat]
  · rintro rfl
    exact .digits digits (by rw [Nat.toUInt64_eq, toNat])

theorem Limit.unique {l m : Option UInt64} (hl : Limit v l) (hm : Limit v m) : l = m := by
  cases hl with
  | null => exact (limit_null_iff.1 hm).symm
  | digits digits value =>
    cases hm with
    | null => cases digits.2 'n' (List.mem_cons_self ..)
    | digits _ value' => exact congrArg some (UInt64.toNat_inj.1 (value.symm.trans value'))

/-- A fraction, an exponent or a number that is too large makes no limit. -/
theorem not_limit_numeral {ds f e : List Char} (whole : Whole ds) (hf : Fraction f)
    (he : Exponent e) (large : f = [] → e = [] → UInt64.size ≤ Nat.ofDigitChars 10 ds 0)
    (limit : Option UInt64) : ¬ Limit (ds ++ (f ++ e)) limit := by
  intro h
  generalize htext : ds ++ (f ++ e) = text at h
  cases h with
  | null =>
    obtain ⟨d, tail, rfl, digit⟩ := whole.exists_cons
    exact ne_of_isDigit digit rfl (List.cons.inj htext).1
  | @digits _ n digits value =>
    subst htext
    have digit {c : Char} (hc : c ∈ f ++ e) : c.isDigit = true :=
      digits.2 c (List.mem_append_right _ hc)
    -- neither a point nor the letter of an exponent is a digit
    have noFraction : f = [] := by
      cases hf with
      | none => rfl
      | some => cases digit (List.mem_append_left _ (List.mem_cons_self ..))
    have noExponent : e = [] := by
      cases he with
      | none => rfl
      | some he =>
        have letter := digit (List.mem_append_right f (List.mem_cons_self ..))
        simp only [List.mem_cons, List.not_mem_nil, or_false] at he
        rcases he with rfl | rfl <;> cases letter
    have tooLarge := large noFraction noExponent
    rw [noFraction, noExponent, List.append_nil, List.append_nil] at value
    exact absurd n.toNat_lt (Nat.not_lt.2 (value ▸ tooLarge))

/-- Of the numbers without a minus sign, a limit is one of digits only that has 64 bits. -/
theorem decides_readLimit_numeral (hb : Blanks b) (hv : Numeral v) (ends : Ends rest) :
    readLimit.Decides (b ++ (v ++ rest)) (Limit v) rest := by
  obtain ⟨d, tail, hd, digit⟩ := hv.exists_cons
  have head : (v ++ rest).head? = some d := by rw [hd]; rfl
  refine (takes_peekToken? b hb (by
    rw [head]
    exact fun c hc => Option.some.inj hc ▸ (opens_of_isDigit digit).1)).bind_decides ?_
  simp only [head, if_neg (ne_of_isDigit digit (c := 'n') rfl),
    if_neg (ne_of_isDigit digit (c := '-') rfl), digit]
  obtain @⟨ds, f, e, whole, hf, he⟩ := hv
  by_cases natural : (f = [] ∧ e = []) ∧ Nat.ofDigitChars 10 ds 0 < UInt64.size
  · obtain ⟨⟨rfl, rfl⟩, fits⟩ := natural
    rw [List.append_nil, List.append_nil]
    refine Takes.decides ?_ fun _ => limit_digits_iff whole.1 fits
    exact (Number.takes_read_digits whole fits ends).bind (takes_pure _ rest)
  · have large (noFraction : f = []) (noExponent : e = []) :
        UInt64.size ≤ Nat.ofDigitChars 10 ds 0 :=
      Nat.not_lt.1 fun fits => natural ⟨⟨noFraction, noExponent⟩, fits⟩
    refine Fails.decides ?_ (not_limit_numeral whole hf he large)
    rw [List.append_assoc, List.append_assoc]
    exact (Number.yields_read whole hf he ends large).bind_fails fails_of_notNatural

theorem decides_readLimit (hb : Blanks b) (hv : WellFormed .value v) (ends : Ends rest) :
    readLimit.Decides (b ++ (v ++ rest)) (Limit v) rest := by
  cases hv with
  | null =>
    exact ((takes_peekToken? b hb (by simp; decide)).bind <| ((takes_advance 'n' _).seqRight
      (takes_word ['u', 'l', 'l'] rest)).seqRight (takes_pure none rest)).decides
      fun _ => limit_null_iff
  | number h => exact decides_readLimit_numeral hb h ends
  | negative h =>
    refine Fails.decides ?_ (not_limit rfl (by decide) (by decide))
    exact (takes_peekToken? b hb (by simp; decide)).bind_fails <|
      (takes_advance '-' _).seqRight_fails <|
        (Number.yields_read_negative _).bind_fails fails_of_notNatural
  | _ =>
    refine Fails.decides ?_ (not_limit rfl (by decide) (by decide))
    exact (takes_peekToken? b hb (by simp; decide)).bind_fails (fails_refuse _ _)

/-! ## Names -/

/-- What a name says: a string that is Unicode text. -/
inductive Name : List Char → String → Prop
  | text {cs : List Char} {us : List UInt16} {name : String} :
      Spelled cs us → (Utf16.ofUnits us).toString? = some name → Name ('"' :: (cs ++ ['"'])) name

theorem not_name {c : Char} (hc : v.head? = some c) (quote : c ≠ '"') (name : String) :
    ¬ Name v name := by
  rintro ⟨-, -⟩
  exact quote (Option.some.inj hc).symm

theorem name_text_iff {cs : List Char} {us : List UInt16} (h : Spelled cs us) {name : String} :
    Name ('"' :: (cs ++ ['"'])) name ↔ (Utf16.ofUnits us).toString? = some name := by
  constructor
  · intro hname
    generalize htext : '"' :: (cs ++ ['"']) = text at hname
    obtain ⟨h', some⟩ := hname
    obtain rfl := List.append_cancel_right (List.cons.inj htext).2
    rwa [h.unique h']
  · exact .text h

theorem Name.unique {x y : String} (hx : Name v x) (hy : Name v y) : x = y := by
  obtain ⟨h, hx⟩ := hx
  exact Option.some.inj (hx.symm.trans ((name_text_iff h).1 hy))

theorem fails_readName {c : Char} (hb : Blanks b) (hc : v.head? = some c) (blank : isBlank c = false)
    (quote : c ≠ '"') : readName.Fails (b ++ (v ++ rest)) := by
  have head : (v ++ rest).head? = some c := by rw [List.head?_append, hc]; rfl
  refine (takes_peekToken? b hb (by
    rw [head]
    exact fun d hd => Option.some.inj hd ▸ blank)).bind_fails ?_
  simp only [head]
  exact fails_refuse _ _

theorem decides_readName (hb : Blanks b) (hv : WellFormed .value v) :
    readName.Decides (b ++ (v ++ rest)) (Name v) rest := by
  cases hv with
  | text h =>
    simp only [List.cons_append, List.append_assoc]
    exact ((takes_peekToken? b hb (by simp; decide)).bind_decides <|
      (takes_advance '"' _).seqRight_decides <| decides_text h rest).congr fun _ => name_text_iff h
  | number h =>
    obtain ⟨d, tail, rfl, digit⟩ := h.exists_cons
    have quote : d ≠ '"' := ne_of_isDigit digit rfl
    exact (fails_readName hb rfl (opens_of_isDigit digit).1 quote).decides (not_name rfl quote)
  | _ => exact (fails_readName hb rfl (by decide) (by decide)).decides (not_name rfl (by decide))

/-! ## Fields -/

/-- The settings have in this field what the value says. -/
def Holds (v : List Char) (s : Settings) : Field → Prop
  | .memoryLimit => Limit v s.memoryLimit
  | .maxStackSize => Limit v s.maxStackSize
  | .gcThreshold => Limit v s.gcThreshold
  | .defaultFileName => Name v s.defaultFileName

/-- The settings have the same in this field. -/
def Agree (s t : Settings) : Field → Prop
  | .memoryLimit => s.memoryLimit = t.memoryLimit
  | .maxStackSize => s.maxStackSize = t.maxStackSize
  | .gcThreshold => s.gcThreshold = t.gcThreshold
  | .defaultFileName => s.defaultFileName = t.defaultFileName

theorem Agree.trans {u : Settings} {f : Field} (h : Agree s t f) (h' : Agree t u f) :
    Agree s u f := by
  cases f <;> exact Eq.trans h h'

theorem Agree.symm {f : Field} (h : Agree s t f) : Agree t s f := by
  cases f <;> exact Eq.symm h

theorem Agree.holds {f : Field} (h : Agree s t f) (ht : Holds v t f) : Holds v s f := by
  cases f <;> rw [Agree] at h <;> simpa only [Holds, h] using ht

/-- A value says one thing. -/
theorem Holds.agree {f : Field} (hs : Holds v s f) (ht : Holds v t f) : Agree s t f := by
  cases f with
  | memoryLimit | maxStackSize | gcThreshold => exact Limit.unique hs ht
  | defaultFileName => exact Name.unique hs ht

theorem eq_of_agree (h : ∀ f, Agree s t f) : s = t := by
  cases s
  cases t
  congr
  · exact h .memoryLimit
  · exact h .maxStackSize
  · exact h .gcThreshold
  · exact h .defaultFileName

theorem forall_field {P : Field → Prop} :
    (∀ f, P f) ↔ P .memoryLimit ∧ P .maxStackSize ∧ P .gcThreshold ∧ P .defaultFileName :=
  ⟨fun h => ⟨h _, h _, h _, h _⟩, fun ⟨h₁, h₂, h₃, h₄⟩ f => by cases f <;> assumption⟩

/-- The settings after one field was set to what a value says. -/
def Assigned (v : List Char) (f : Field) (s t : Settings) : Prop :=
  Holds v t f ∧ ∀ g, g ≠ f → Agree t s g

theorem decides_readField (s : Settings) (f : Field) (hb : Blanks b) (hv : WellFormed .value v)
    (ends : Ends rest) :
    (readField s f).Decides (b ++ (v ++ rest)) (Assigned v f s) rest := by
  have sets {α : Type} {p : Reader α} {P : α → Prop} (set : α → Settings)
      (hp : p.Decides (b ++ (v ++ rest)) P rest)
      (good : ∀ t, Assigned v f s t ↔ ∃ a, P a ∧ t = set a) :
      (p >>= fun a => pure (set a)).Decides (b ++ (v ++ rest)) (Assigned v f s) rest :=
    (hp.bind fun a _ => (takes_pure (set a) rest).decides fun _ => Iff.rfl).congr good
  cases f with
  | memoryLimit =>
    refine sets _ (decides_readLimit hb hv ends) ?_
    rintro ⟨⟩
    simp [Assigned, forall_field, Holds, Agree]
  | maxStackSize =>
    refine sets _ (decides_readLimit hb hv ends) ?_
    rintro ⟨⟩
    simp [Assigned, forall_field, Holds, Agree]
  | gcThreshold =>
    refine sets _ (decides_readLimit hb hv ends) ?_
    rintro ⟨⟩
    simp [Assigned, forall_field, Holds, Agree]
  | defaultFileName =>
    refine sets _ (decides_readName hb hv) ?_
    rintro ⟨⟩
    simp [Assigned, forall_field, Holds, Agree]

end Drawbridge.Settings
