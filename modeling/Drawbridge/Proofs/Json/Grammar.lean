import Drawbridge.Json.Text
import Drawbridge.Proofs.Text.Digits

/-!
# The grammar of JSON

`WellFormed .value cs` says that the characters `cs` are one JSON value, with blanks wherever they may
stand inside it.  What is left of a list or an object behind one of its parts has a form of its own,
up to the mark that closes it.  A string is `Spelled` by characters and escapes; it spells 16-bit
units, among them surrogates that may stand alone.
-/

namespace Drawbridge.Json

open Reader (isBlank)

variable {cs ds : List Char}

/-- Nothing but blanks, tabs and line ends, or nothing at all. -/
def Blanks (cs : List Char) : Prop := ∀ c ∈ cs, isBlank c = true

/-! ## Strings -/

/-- The letters that may come after a backslash, and what they stand for. -/
def letters : List (Char × Char) :=
  [('"', '"'), ('\\', '\\'), ('/', '/'), ('b', '\x08'), ('f', '\x0c'), ('n', '\n'), ('r', '\r'),
    ('t', '\t')]

/-- Four hexadecimal digits, and the unit that they are. -/
def HexUnit (ds : List Char) (u : UInt16) : Prop :=
  ds.length = 4 ∧ ∃ vs, ds.mapM Double.hexValue? = some vs ∧
    u = (vs.foldl (fun n d => 16 * n + d) 0).toUInt16

/-- What stands between the quotes of a string, and the units that it spells. -/
inductive Spelled : List Char → List UInt16 → Prop
  | nil : Spelled [] []
  | plain {c : Char} {cs : List Char} {us : List UInt16} :
      c ≠ '"' → c ≠ '\\' → 0x20 ≤ c.toNat → Spelled cs us → Spelled (c :: cs) (Utf16.ofChar c ++ us)
  | letter {l c : Char} {cs : List Char} {us : List UInt16} :
      (l, c) ∈ letters → Spelled cs us → Spelled ('\\' :: l :: cs) (Utf16.ofChar c ++ us)
  | code {ds cs : List Char} {u : UInt16} {us : List UInt16} :
      HexUnit ds u → Spelled cs us → Spelled ('\\' :: 'u' :: (ds ++ cs)) (u :: us)

/-- A key with its quotes and colon, and the units of the key. -/
inductive Key : List Char → List UInt16 → Prop
  | intro {cs b : List Char} {us : List UInt16} :
      Spelled cs us → Blanks b → Key ('"' :: (cs ++ '"' :: (b ++ [':']))) us

/-! ## Numbers -/

/-- At least one decimal digit, and nothing else. -/
def Digits (ds : List Char) : Prop := ds ≠ [] ∧ ∀ d ∈ ds, d.isDigit = true

/-- Digits with no zero in front of another one. -/
def Whole (ds : List Char) : Prop := Digits ds ∧ (ds.head? = some '0' → ds = ['0'])

/-- The fraction of a number with its point, if there is one. -/
inductive Fraction : List Char → Prop
  | none : Fraction []
  | some {ds : List Char} : Digits ds → Fraction ('.' :: ds)

/-- The exponent of a number with its letter and sign, if there is one. -/
inductive Exponent : List Char → Prop
  | none : Exponent []
  | some {e : Char} {sign ds : List Char} :
      e ∈ ['e', 'E'] → sign ∈ [[], ['+'], ['-']] → Digits ds → Exponent (e :: (sign ++ ds))

/-- A number without its minus sign. -/
inductive Numeral : List Char → Prop
  | intro {ds f e : List Char} : Whole ds → Fraction f → Exponent e → Numeral (ds ++ (f ++ e))

/-! ## Values -/

/-- What a text is to be well formed as: a value, or what is left of a list or of an object. -/
inductive Form where
  | value
  /-- the rest of a list behind an item, with its bracket -/
  | items
  /-- the rest of an object behind a member, with its brace -/
  | members

/-- The texts that JSON allows at a place. There is nothing in front of a value, and nothing behind
it. -/
inductive WellFormed : Form → List Char → Prop
  | null : WellFormed .value ['n', 'u', 'l', 'l']
  | true : WellFormed .value ['t', 'r', 'u', 'e']
  | false : WellFormed .value ['f', 'a', 'l', 's', 'e']
  | number {cs : List Char} : Numeral cs → WellFormed .value cs
  | negative {cs : List Char} : Numeral cs → WellFormed .value ('-' :: cs)
  | text {cs : List Char} {us : List UInt16} :
      Spelled cs us → WellFormed .value ('"' :: (cs ++ ['"']))
  | emptyList {b : List Char} : Blanks b → WellFormed .value ('[' :: (b ++ [']']))
  | list {b v cs : List Char} :
      Blanks b → WellFormed .value v → WellFormed .items cs → WellFormed .value ('[' :: (b ++ (v ++ cs)))
  | emptyObject {b : List Char} : Blanks b → WellFormed .value ('\x7b' :: (b ++ ['\x7d']))
  | object {b k b' v cs : List Char} {us : List UInt16} :
      Blanks b → Key k us → Blanks b' → WellFormed .value v → WellFormed .members cs →
      WellFormed .value ('\x7b' :: (b ++ (k ++ (b' ++ (v ++ cs)))))
  | endOfItems {a : List Char} : Blanks a → WellFormed .items (a ++ [']'])
  | nextItem {a b v cs : List Char} :
      Blanks a → Blanks b → WellFormed .value v → WellFormed .items cs →
      WellFormed .items (a ++ ',' :: (b ++ (v ++ cs)))
  | endOfMembers {a : List Char} : Blanks a → WellFormed .members (a ++ ['\x7d'])
  | nextMember {a b k b' v cs : List Char} {us : List UInt16} :
      Blanks a → Blanks b → Key k us → Blanks b' → WellFormed .value v → WellFormed .members cs →
      WellFormed .members (a ++ ',' :: (b ++ (k ++ (b' ++ (v ++ cs)))))

/-! ## Heads -/

/-- A character that a value may begin with: no blank, and no mark that ends a list or an object. -/
def Opens (c : Char) : Prop := isBlank c = false ∧ c ≠ ']' ∧ c ≠ '\x7d'

theorem opens_of_isDigit {c : Char} (hc : c.isDigit = true) : Opens c := by
  refine ⟨?_, ?_, ?_⟩
  · rw [Bool.eq_false_iff]
    intro blank
    simp only [isBlank, Bool.or_eq_true, decide_eq_true_eq] at blank
    rcases blank with ((rfl | rfl) | rfl) | rfl <;> cases hc
  · rintro rfl
    cases hc
  · rintro rfl
    cases hc

/-- A digit is no other character. -/
theorem ne_of_isDigit {c d : Char} (hd : d.isDigit = true) (hc : c.isDigit = false) : d ≠ c := by
  rintro rfl
  rw [hc] at hd
  cases hd

theorem Whole.exists_cons (h : Whole ds) : ∃ d tail, ds = d :: tail ∧ d.isDigit = true := by
  obtain ⟨d, tail, rfl⟩ := List.exists_cons_of_ne_nil h.1.1
  exact ⟨d, tail, rfl, h.1.2 d (List.mem_cons_self ..)⟩

theorem Numeral.exists_cons (h : Numeral cs) : ∃ d tail, cs = d :: tail ∧ d.isDigit = true := by
  obtain ⟨whole, -, -⟩ := h
  obtain ⟨d, tail, rfl, digit⟩ := whole.exists_cons
  exact ⟨d, _, List.cons_append .., digit⟩

theorem WellFormed.exists_cons (h : WellFormed .value cs) : ∃ c tail, cs = c :: tail ∧ Opens c := by
  cases h with
  | number h =>
    obtain ⟨d, tail, rfl, digit⟩ := h.exists_cons
    exact ⟨d, tail, rfl, opens_of_isDigit digit⟩
  | _ => exact ⟨_, _, rfl, by decide, by decide, by decide⟩

theorem Key.exists_cons {k : List Char} {us : List UInt16} (h : Key k us) :
    ∃ tail, k = '"' :: tail := by
  obtain ⟨-, -⟩ := h
  exact ⟨_, rfl⟩

/-- No number goes on here. -/
def Ends (rest : List Char) : Prop :=
  ∀ c ∈ rest.head?, c.isDigit = false ∧ c ≠ '.' ∧ c ≠ 'e' ∧ c ≠ 'E'

theorem Blanks.ends {b rest : List Char} (hb : Blanks b) (ends : Ends rest) : Ends (b ++ rest) := by
  cases b with
  | nil => exact ends
  | cons c b =>
    rintro _ ⟨⟩
    have blank := hb c (List.mem_cons_self ..)
    simp only [isBlank, Bool.or_eq_true, decide_eq_true_eq] at blank
    rcases blank with ((rfl | rfl) | rfl) | rfl <;> decide

/-- Behind a part of a list or an object no number goes on. -/
theorem WellFormed.ends {form : Form} (h : WellFormed form cs) (rest : List Char)
    (part : form ≠ .value) : Ends (cs ++ rest) := by
  cases h with
  | endOfItems ha | endOfMembers ha =>
    rw [List.append_assoc]
    exact ha.ends (by rintro _ ⟨⟩; decide)
  | nextItem ha | nextMember ha =>
    rw [List.append_assoc]
    exact ha.ends (by rintro _ ⟨⟩; decide)
  | _ => exact absurd rfl part

/-! ## What a spelling spells -/

theorem HexUnit.unique {ds : List Char} {u v : UInt16} (hu : HexUnit ds u) (hv : HexUnit ds v) :
    u = v := by
  obtain ⟨-, us, hus, rfl⟩ := hu
  obtain ⟨-, vs, hvs, rfl⟩ := hv
  rw [Option.some.inj (hus.symm.trans hvs)]

theorem letters_unique {l c d : Char} (hc : (l, c) ∈ letters) (hd : (l, d) ∈ letters) :
    c = d ∧ l ≠ 'u' := by
  have unique : ∀ p ∈ letters, ∀ q ∈ letters, p.1 = q.1 → p.2 = q.2 ∧ p.1 ≠ 'u' := by decide
  exact unique _ hc _ hd rfl

theorem Spelled.unique {cs : List Char} {us vs : List UInt16} (hu : Spelled cs us)
    (hv : Spelled cs vs) : us = vs := by
  induction hu generalizing vs with
  | nil =>
    cases hv
    rfl
  | plain _ backslash _ _ ih =>
    cases hv with
    | plain _ _ _ hv => rw [ih hv]
    | letter => exact absurd rfl backslash
    | code => exact absurd rfl backslash
  | letter letter _ ih =>
    cases hv with
    | plain _ backslash => exact absurd rfl backslash
    | letter letter' hv => rw [ih hv, (letters_unique letter letter').1]
    | code => exact absurd rfl (letters_unique letter letter).2
  | @code ds cs u us hex _ ih =>
    generalize htext : '\\' :: 'u' :: (ds ++ cs) = text at hv
    cases hv with
    | nil => cases htext
    | plain _ backslash =>
      obtain ⟨rfl, -⟩ := List.cons.inj htext
      exact absurd rfl backslash
    | letter letter =>
      obtain ⟨-, htext⟩ := List.cons.inj htext
      obtain ⟨rfl, -⟩ := List.cons.inj htext
      exact absurd rfl (letters_unique letter letter).2
    | code hex' hv =>
      obtain ⟨rfl, rfl⟩ := List.append_inj (List.cons.inj (List.cons.inj htext).2).2
        (hex.1.trans hex'.1.symm)
      rw [ih hv, hex.unique hex']

/-! ## Behind the digits of a number -/

variable {f e rest : List Char}

/-- An exponent does not go on with a digit, and nothing stands between it and a fraction. -/
theorem head?_exponent (he : Exponent e) (ends : Ends rest) :
    ∀ c ∈ (e ++ rest).head?, c.isDigit = false ∧ c ≠ '.' := by
  cases he with
  | none => exact fun c hc => ⟨(ends c hc).1, (ends c hc).2.1⟩
  | some he =>
    rintro _ ⟨⟩
    simp only [List.mem_cons, List.not_mem_nil, or_false] at he
    rcases he with rfl | rfl <;> decide

/-- Without the letter of an exponent there is none. -/
theorem eq_nil_of_head?_exponent (he : Exponent e)
    (small : (e ++ rest).head? ≠ some 'e') (big : (e ++ rest).head? ≠ some 'E') : e = [] := by
  cases he with
  | none => rfl
  | some he =>
    simp only [List.mem_cons, List.not_mem_nil, or_false] at he
    rcases he with rfl | rfl
    · exact absurd rfl small
    · exact absurd rfl big

theorem head?_fraction (hf : Fraction f) (he : Exponent e) (ends : Ends rest) :
    ∀ c ∈ (f ++ (e ++ rest)).head?, c.isDigit = false := by
  cases hf with
  | none => exact fun c hc => (head?_exponent he ends c hc).1
  | some =>
    rintro _ ⟨⟩
    decide

/-- Without a point there is no fraction. -/
theorem eq_nil_of_head?_fraction (hf : Fraction f) (point : (f ++ rest).head? ≠ some '.') :
    f = [] := by
  cases hf with
  | none => rfl
  | some => exact absurd rfl point

end Drawbridge.Json
