import Drawbridge.Json.Skip
import Drawbridge.Proofs.Json.Grammar
import Drawbridge.Proofs.Json.Number
import Drawbridge.Proofs.Json.Text

/-!
# Values passed over

Any well-formed value is passed over to its end (`takes_skip`), however deep it is nested.  Each form of
the grammar is read by one of the readers that pass over it, and these call each other as the forms do.
-/

namespace Drawbridge.Json.Reader

variable {cs ds b : List Char} {us : List UInt16} {rest : List Char} {n : Nat}

/-! ## Strings -/

theorem takes_skipEscape_letter {l c : Char} (h : (l, c) ∈ letters) (rest : List Char) :
    skipEscape.Takes (l :: rest) () rest := by
  obtain ⟨letter, notCode⟩ := escaped?_of_mem_letters h
  refine (takes_peek? _).bind ?_
  simp only [List.head?_cons, if_neg notCode, letter]
  exact takes_advance l rest

theorem takes_skipEscape_code {u : UInt16} (h : HexUnit ds u) (rest : List Char) :
    skipEscape.Takes ('u' :: (ds ++ rest)) () rest :=
  (takes_peek? _).bind <| (takes_advance 'u' _).seqRight (takes_hex4 h rest).discard

theorem takes_skipTextBody (h : Spelled cs us) (hn : cs.length < n) (rest : List Char) :
    (skipTextBody n).Takes (cs ++ '"' :: rest) () rest := by
  induction h generalizing n with
  | nil =>
    obtain ⟨n, rfl⟩ := Nat.exists_eq_add_one_of_ne_zero (Nat.ne_zero_of_lt hn)
    exact (takes_peek? _).bind (takes_advance '"' rest)
  | @plain c cs us quote backslash plain _ ih =>
    obtain ⟨n, rfl⟩ := Nat.exists_eq_add_one_of_ne_zero (Nat.ne_zero_of_lt hn)
    have noControl : isControl c = false := by simpa [isControl] using plain
    refine (takes_peek? _).bind ?_
    simp only [List.cons_append, List.head?_cons, if_neg quote, if_neg backslash, noControl]
    exact (takes_advance c _).seqRight (ih (by simpa using hn))
  | letter letter _ ih =>
    obtain ⟨n, rfl⟩ := Nat.exists_eq_add_one_of_ne_zero (Nat.ne_zero_of_lt hn)
    have enough := Nat.le_of_succ_le (Nat.le_of_lt_add_one hn)
    exact (takes_peek? _).bind <| ((takes_advance '\\' _).seqRight
      (takes_skipEscape_letter letter _)).seqRight (ih enough)
  | @code ds cs u us hex _ ih =>
    obtain ⟨n, rfl⟩ := Nat.exists_eq_add_one_of_ne_zero (Nat.ne_zero_of_lt hn)
    have enough : cs.length < n := by
      simp only [List.length_cons, List.length_append] at hn
      omega
    rw [List.cons_append, List.cons_append, List.append_assoc]
    exact (takes_peek? _).bind <| ((takes_advance '\\' _).seqRight
      (takes_skipEscape_code hex _)).seqRight (ih enough)

theorem takes_skipText (h : Spelled cs us) (rest : List Char) :
    skipText.Takes (cs ++ '"' :: rest) () rest :=
  (takes_fuel _).bind <| takes_skipTextBody h (by simp only [List.length_append]; omega) rest

/-! ## Numbers -/

theorem head?_digits (h : Digits ds) (rest : List Char) :
    ∃ d, (ds ++ rest).head? = some d ∧ d.isDigit = true := by
  obtain ⟨d, tail, rfl⟩ := List.exists_cons_of_ne_nil h.1
  exact ⟨d, rfl, h.2 d (List.mem_cons_self ..)⟩

theorem takes_skipExponent {e : Char} {sign : List Char} (hsign : sign ∈ [[], ['+'], ['-']])
    (hds : Digits ds) (stop : ∀ c ∈ rest.head?, c.isDigit = false) :
    skipExponent.Takes (e :: (sign ++ (ds ++ rest))) () rest := by
  obtain ⟨d, hd, digit⟩ := head?_digits hds rest
  have number := (takes_digits hds.2 stop).discard
  refine (takes_advance e _).bind <| (takes_peek? _).bind ?_
  simp only [List.mem_cons, List.not_mem_nil, or_false] at hsign
  rcases hsign with rfl | rfl | rfl
  · simp only [List.nil_append, hd]
    split
    · next h => exact absurd (Option.some.inj h ▸ digit) (by decide)
    · next h => exact absurd (Option.some.inj h ▸ digit) (by decide)
    · refine (takes_peek? _).bind ?_
      simp only [hd, digit]
      exact number
  · refine (takes_advance '+' (ds ++ rest)).bind <| (takes_peek? _).bind ?_
    simp only [hd, digit]
    exact number
  · refine (takes_advance '-' (ds ++ rest)).bind <| (takes_peek? _).bind ?_
    simp only [hd, digit]
    exact number

/-- If a number goes on with the letter of an exponent, there is one. -/
theorem takes_skipExponent_head {e : List Char} {c : Char} (he : Exponent e) (ends : Ends rest)
    (hc : c = 'e' ∨ c = 'E') (h : (e ++ rest).head? = some c) :
    skipExponent.Takes (e ++ rest) () rest := by
  cases he with
  | none =>
    rcases hc with rfl | rfl
    · exact absurd rfl (ends _ h).2.2.1
    · exact absurd rfl (ends _ h).2.2.2
  | some _ hsign hds =>
    rw [List.cons_append, List.append_assoc]
    exact takes_skipExponent hsign hds fun c hc => (ends c hc).1

theorem takes_skipFraction {e : List Char} (hds : Digits ds) (he : Exponent e) (ends : Ends rest) :
    skipFraction.Takes ('.' :: (ds ++ (e ++ rest))) () rest := by
  have some : ds.isEmpty = false := List.isEmpty_eq_false_iff.2 hds.1
  refine (takes_advance '.' _).bind <|
    (takes_digits hds.2 fun c hc => (head?_exponent he ends c hc).1).bind ?_
  rw [some]
  refine (takes_peek? _).bind ?_
  split
  · next h => exact takes_skipExponent_head he ends (.inl rfl) h
  · next h => exact takes_skipExponent_head he ends (.inr rfl) h
  · next small big =>
    rw [eq_nil_of_head?_exponent he small big]
    exact takes_pure () rest

/-- What a number has behind its whole part. -/
theorem takes_fractionAndExponent {f e : List Char} (hf : Fraction f) (he : Exponent e)
    (ends : Ends rest) :
    (do
      match ← peek? with
      | some '.' => skipFraction
      | some 'e' | some 'E' => skipExponent
      | _ => pure ()).Takes (f ++ (e ++ rest)) () rest := by
  refine (takes_peek? _).bind ?_
  cases hf with
  | some hds => exact takes_skipFraction hds he ends
  | none =>
    rw [List.nil_append]
    split
    · next h => exact absurd rfl (head?_exponent he ends _ h).2
    · next h => exact takes_skipExponent_head he ends (.inl rfl) h
    · next h => exact takes_skipExponent_head he ends (.inr rfl) h
    · next _ small big =>
      rw [eq_nil_of_head?_exponent he small big]
      exact takes_pure () rest

theorem takes_skipNumber (h : Numeral cs) (ends : Ends rest) :
    skipNumber.Takes (cs ++ rest) () rest := by
  obtain @⟨ds, f, e, whole, hf, he⟩ := h
  obtain ⟨d, tail, rfl, digit⟩ := whole.exists_cons
  have stop := head?_fraction hf he ends
  have later := takes_fractionAndExponent hf he ends
  rw [List.append_assoc, List.append_assoc]
  refine (takes_peek? _).bind ?_
  simp only [List.cons_append, List.head?_cons, digit]
  by_cases zero : d = '0'
  · -- a zero in front is the whole part
    obtain ⟨rfl, rfl⟩ := List.cons.inj (whole.2 (congrArg some zero))
    refine (takes_advance '0' _).bind <| (takes_peek? _).bind ?_
    rw [List.nil_append]
    cases hhead : (f ++ (e ++ rest)).head? with
    | none => exact later
    | some c =>
      simp only [stop c hhead]
      exact later
  · simp only [if_neg zero]
    exact (takes_digits whole.1.2 stop).discard.bind later

/-! ## Values -/

theorem takes_skipKey {k : List Char} (hb : Blanks b) (hk : Key k us) (rest : List Char) :
    skipKey.Takes (b ++ (k ++ rest)) () rest := by
  obtain @⟨cs, b', us, hcs, hb'⟩ := hk
  simp only [List.cons_append, List.append_assoc]
  refine (takes_peekToken? b hb (by simp; decide)).bind <| (takes_advance '"' _).bind <|
    (takes_skipText hcs _).bind ?_
  exact (takes_peekToken? b' hb' (by simp; decide)).bind (takes_advance ':' rest)

/-- A digit is none of the letters and marks that other values begin with. -/
theorem takes_skipValue_digit {d : Char} {input : List Char} (hb : Blanks b) (digit : d.isDigit = true)
    (h : skipNumber.Takes (d :: input) () rest) :
    (skipValue (n + 1)).Takes (b ++ d :: input) () rest := by
  have differs {c : Char} : c.isDigit = false → d ≠ c := ne_of_isDigit digit
  have blank := (opens_of_isDigit digit).1
  rw [skipValue]
  refine (takes_peekToken? b hb (by simpa using blank)).bind ?_
  simp only [List.head?_cons, if_neg (differs (c := 'n') rfl), if_neg (differs (c := 't') rfl),
    if_neg (differs (c := 'f') rfl), if_neg (differs (c := '-') rfl), digit]
  exact h

/-- A list: its first item, then the rest of it. -/
theorem takes_skipValue_list {b' v cs : List Char} (hb : Blanks b) (hb' : Blanks b')
    (hv : WellFormed .value v) (value : (skipValue n).Takes (v ++ (cs ++ rest)) () (cs ++ rest))
    (items : (skipItems n).Takes (cs ++ rest) () rest) :
    (skipValue (n + 1)).Takes (b ++ '[' :: (b' ++ (v ++ (cs ++ rest)))) () rest := by
  obtain ⟨c, tail, rfl, blank, notEnd, -⟩ := hv.exists_cons
  rw [skipValue]
  refine (takes_peekToken? b hb (by simp; decide)).bind <| (takes_advance '[' _).bind <|
    (takes_peekToken? b' hb' (by simpa using blank)).bind ?_
  simp only [List.cons_append, List.head?_cons]
  exact value.bind items

/-- An object: its first member, then the rest of it. -/
theorem takes_skipValue_object {b' k b'' v cs : List Char} (hb : Blanks b) (hb' : Blanks b')
    (hk : Key k us) (value : (skipValue n).Takes (b'' ++ (v ++ (cs ++ rest))) () (cs ++ rest))
    (members : (skipMembers n).Takes (cs ++ rest) () rest) :
    (skipValue (n + 1)).Takes (b ++ '\x7b' :: (b' ++ (k ++ (b'' ++ (v ++ (cs ++ rest)))))) () rest := by
  have key := takes_skipKey (b := []) nofun hk (b'' ++ (v ++ (cs ++ rest)))
  obtain ⟨tail, hquote⟩ := hk.exists_cons
  subst hquote
  rw [skipValue]
  exact (takes_peekToken? b hb (by simp; decide)).bind <| (takes_advance '\x7b' _).bind <|
    (takes_peekToken? b' hb' (by simp; decide)).bind <| key.bind <| value.bind members

theorem takes_skipItems_next {a v cs : List Char} (ha : Blanks a)
    (value : (skipValue n).Takes (b ++ (v ++ (cs ++ rest))) () (cs ++ rest))
    (items : (skipItems n).Takes (cs ++ rest) () rest) :
    (skipItems (n + 1)).Takes (a ++ ',' :: (b ++ (v ++ (cs ++ rest)))) () rest := by
  rw [skipItems]
  exact (takes_peekToken? a ha (by simp; decide)).bind <| (takes_advance ',' _).bind <|
    value.bind items

theorem takes_skipMembers_next {a k b' v cs : List Char} (ha : Blanks a) (hb : Blanks b)
    (hk : Key k us) (value : (skipValue n).Takes (b' ++ (v ++ (cs ++ rest))) () (cs ++ rest))
    (members : (skipMembers n).Takes (cs ++ rest) () rest) :
    (skipMembers (n + 1)).Takes (a ++ ',' :: (b ++ (k ++ (b' ++ (v ++ (cs ++ rest)))))) () rest := by
  rw [skipMembers]
  exact (takes_peekToken? a ha (by simp; decide)).bind <| (takes_advance ',' _).bind <|
    (takes_skipKey hb hk _).bind <| value.bind members

/-- What each form is read by, with enough fuel for its length. -/
def PassedOver (cs : List Char) : Form → Prop
  | .value => ∀ n b rest, cs.length ≤ n → Blanks b → Ends rest →
    (skipValue n).Takes (b ++ (cs ++ rest)) () rest
  | .items => ∀ n rest, cs.length ≤ n → (skipItems n).Takes (cs ++ rest) () rest
  | .members => ∀ n rest, cs.length ≤ n → (skipMembers n).Takes (cs ++ rest) () rest

theorem passedOver {form : Form} (h : WellFormed form cs) : PassedOver cs form := by
  induction h with
  | null =>
    rintro (_ | n) b rest hn hb -
    · cases hn
    rw [skipValue]
    exact (takes_peekToken? b hb (by simp; decide)).bind <| (takes_advance 'n' _).seqRight <|
      takes_word ['u', 'l', 'l'] rest
  | true =>
    rintro (_ | n) b rest hn hb -
    · cases hn
    rw [skipValue]
    exact (takes_peekToken? b hb (by simp; decide)).bind <| (takes_advance 't' _).seqRight <|
      takes_word ['r', 'u', 'e'] rest
  | false =>
    rintro (_ | n) b rest hn hb -
    · cases hn
    rw [skipValue]
    exact (takes_peekToken? b hb (by simp; decide)).bind <| (takes_advance 'f' _).seqRight <|
      takes_word ['a', 'l', 's', 'e'] rest
  | number h =>
    rintro n b rest hn hb ends
    have number := takes_skipNumber h ends
    obtain ⟨d, tail, rfl, digit⟩ := h.exists_cons
    obtain _ | n := n
    · cases hn
    exact takes_skipValue_digit hb digit number
  | negative h =>
    rintro (_ | n) b rest hn hb ends
    · cases hn
    rw [skipValue]
    exact (takes_peekToken? b hb (by simp; decide)).bind <| (takes_advance '-' _).seqRight <|
      takes_skipNumber h ends
  | text h =>
    rintro (_ | n) b rest hn hb -
    · cases hn
    rw [skipValue, List.cons_append, List.append_assoc]
    exact (takes_peekToken? b hb (by simp; decide)).bind <| (takes_advance '"' _).seqRight <|
      takes_skipText h rest
  | @emptyList b' hb' =>
    rintro (_ | n) b rest hn hb -
    · cases hn
    rw [skipValue, List.cons_append, List.append_assoc]
    exact (takes_peekToken? b hb (by simp; decide)).bind <| (takes_advance '[' _).bind <|
      (takes_peekToken? b' hb' (by simp; decide)).bind <| takes_advance ']' rest
  | list hb' hv hcs value items =>
    rintro (_ | n) b rest hn hb -
    · cases hn
    simp only [List.length_cons, List.length_append] at hn
    simp only [List.cons_append, List.append_assoc]
    exact takes_skipValue_list hb hb' hv (value n [] _ (by omega) nofun (hcs.ends rest nofun))
      (items n rest (by omega))
  | @emptyObject b' hb' =>
    rintro (_ | n) b rest hn hb -
    · cases hn
    rw [skipValue, List.cons_append, List.append_assoc]
    exact (takes_peekToken? b hb (by simp; decide)).bind <| (takes_advance '\x7b' _).bind <|
      (takes_peekToken? b' hb' (by simp; decide)).bind <| takes_advance '\x7d' rest
  | object hb' hk hb'' hv hcs value members =>
    rintro (_ | n) b rest hn hb -
    · cases hn
    simp only [List.length_cons, List.length_append] at hn
    simp only [List.cons_append, List.append_assoc]
    exact takes_skipValue_object hb hb' hk (value n _ _ (by omega) hb'' (hcs.ends rest nofun))
      (members n rest (by omega))
  | @endOfItems a ha =>
    rintro (_ | n) rest hn
    · simp at hn
    rw [skipItems, List.append_assoc]
    exact (takes_peekToken? a ha (by simp; decide)).bind (takes_advance ']' rest)
  | nextItem ha hb hv hcs value items =>
    rintro (_ | n) rest hn
    · simp at hn
    simp only [List.length_cons, List.length_append] at hn
    simp only [List.cons_append, List.append_assoc]
    exact takes_skipItems_next ha (value n _ _ (by omega) hb (hcs.ends rest nofun))
      (items n rest (by omega))
  | @endOfMembers a ha =>
    rintro (_ | n) rest hn
    · simp at hn
    rw [skipMembers, List.append_assoc]
    exact (takes_peekToken? a ha (by simp; decide)).bind (takes_advance '\x7d' rest)
  | nextMember ha hb hk hb' hv hcs value members =>
    rintro (_ | n) rest hn
    · simp at hn
    simp only [List.length_cons, List.length_append] at hn
    simp only [List.cons_append, List.append_assoc]
    exact takes_skipMembers_next ha hb hk (value n _ _ (by omega) hb' (hcs.ends rest nofun))
      (members n rest (by omega))

/-- Any value is passed over to its end. -/
theorem takes_skip (hb : Blanks b) (h : WellFormed .value cs) (ends : Ends rest) :
    skip.Takes (b ++ (cs ++ rest)) () rest :=
  (takes_fuel _).bind <| passedOver h _ b rest (by simp only [List.length_append]; omega) hb ends

end Drawbridge.Json.Reader
