import Drawbridge.Proofs.Json.Grammar
import Drawbridge.Proofs.Json.Reader
import Drawbridge.Proofs.Text.Utf16
import Mathlib.Algebra.Order.Ring.Nat

/-!
# JSON strings read

A string is read as the text of the units that it spells, and it is refused if a surrogate among them
stands alone (`decides_text`).  A string that is written spells the text that it was
(`spelled_flatMap_writeChar`), so that it is read as it was (`takes_text`).
-/

namespace Drawbridge

/-! ## Hexadecimal digits -/

namespace Double

theorem hexValue?_digitChar {d : Nat} (h : d < 16) : hexValue? (Nat.digitChar d) = some d := by
  have values : ∀ d < 16, hexValue? (Nat.digitChar d) = some d := by decide
  exact values d h

theorem length_hexDigits (width n : Nat) : (hexDigits width n).length = width := by
  induction width generalizing n with
  | zero => rfl
  | succ width ih => simp [hexDigits, ih]

/-- The value of the digits is what so many of them can hold. -/
theorem exists_mapM_hexDigits (width n : Nat) :
    ∃ ds, (hexDigits width n).mapM hexValue? = some ds ∧
      ds.foldl (fun n d => 16 * n + d) 0 = n % 16 ^ width := by
  induction width generalizing n with
  | zero => exact ⟨[], rfl, by simp [Nat.mod_one]⟩
  | succ width ih =>
    obtain ⟨ds, hds, value⟩ := ih (n / 16)
    refine ⟨ds ++ [n % 16], ?_, ?_⟩
    · have last := hexValue?_digitChar (Nat.mod_lt n (by decide : 16 > 0))
      simp [hexDigits, List.mapM_append, hds, last]
    · rw [List.foldl_append, value, Nat.pow_succ', Nat.mod_mul]
      simp [Nat.add_comm]

end Double

namespace Json

namespace Reader

open Utf16 (isHigh isLow ofChar pair)

variable {c l : Char} {u v : UInt16} {us : List UInt16} {n : Nat} {cs ds es input rest : List Char}

/-! ## Escapes -/

theorem hexUnit_hexDigits (hn : n < 65536) : HexUnit (Double.hexDigits 4 n) n.toUInt16 := by
  obtain ⟨vs, hvs, value⟩ := Double.exists_mapM_hexDigits 4 n
  have whole : n % 16 ^ 4 = n := Nat.mod_eq_of_lt hn
  exact ⟨Double.length_hexDigits 4 n, vs, hvs, by rw [value, whole]⟩

theorem length_le_utf8ByteSize (cs : List Char) : cs.length ≤ (String.ofList cs).utf8ByteSize := by
  induction cs with
  | nil => simp
  | cons c cs ih =>
    rw [← List.singleton_append, String.ofList_append, String.utf8ByteSize_append]
    have size := c.utf8Size_pos
    simp only [← String.singleton_eq_ofList, String.utf8ByteSize_singleton, List.length_append,
      List.length_singleton]
    omega

theorem takes_hex4 (h : HexUnit ds u) (rest : List Char) : hex4.Takes (ds ++ rest) u rest := by
  obtain ⟨four, vs, hvs, rfl⟩ := h
  intro line column
  have enough : ¬ (⟨ds ++ rest, line, column⟩ : Cursor).remaining < 4 := by
    have bound := length_le_utf8ByteSize (ds ++ rest)
    rw [List.length_append, four] at bound
    exact Nat.not_lt.2 (Nat.le_trans (Nat.le_add_right 4 _) bound)
  have taken : (ds ++ rest).take 4 = ds := List.take_left' four
  have dropped : (ds ++ rest).drop 4 = rest := List.drop_left' four
  refine ⟨line, column + 4, ?_⟩
  simp [hex4, enough, taken, dropped, hvs]
  rfl

theorem takes_escapePart (c : Char) (rest : List Char) : (escapePart c).Takes (c :: rest) () rest := by
  refine (takes_peek? _).bind ?_
  simp only [List.head?_cons, if_pos]
  exact takes_advance c rest

theorem fails_escapePart {expected : Char} (hc : c ≠ expected) (rest : List Char) :
    (escapePart expected).Fails (c :: rest) := by
  refine (takes_peek? _).bind_fails ?_
  simp only [List.head?_cons, if_neg hc]
  exact fails_failNext _ _

theorem escaped?_of_mem_letters (h : (l, c) ∈ letters) : escaped? l = some c ∧ l ≠ 'u' := by
  simp only [letters, List.mem_cons, Prod.mk.injEq, List.not_mem_nil, or_false] at h
  rcases h with ⟨rfl, rfl⟩ | ⟨rfl, rfl⟩ | ⟨rfl, rfl⟩ | ⟨rfl, rfl⟩ | ⟨rfl, rfl⟩ | ⟨rfl, rfl⟩ |
    ⟨rfl, rfl⟩ | ⟨rfl, rfl⟩ <;> exact ⟨rfl, by decide⟩

theorem takes_escape_letter (h : (l, c) ∈ letters) (rest : List Char) :
    escape.Takes (l :: rest) c rest := by
  obtain ⟨letter, notCode⟩ := escaped?_of_mem_letters h
  refine (takes_peek? _).bind ?_
  simp only [List.head?_cons, if_neg notCode, letter]
  exact (takes_advance l rest).seqRight (takes_pure c rest)

/-- The code of a character that takes one unit. -/
theorem takes_unicodeEscape_unit (h : HexUnit ds u) (high : isHigh u = false) (low : isLow u = false)
    (rest : List Char) : unicodeEscape.Takes (ds ++ rest) (Char.ofNat u.toNat) rest := by
  refine (takes_hex4 h rest).bind ?_
  rw [high, low]
  exact takes_pure _ rest

/-- The codes of both halves of a pair. -/
theorem takes_unicodeEscape_pair (h : HexUnit ds u) (h' : HexUnit es v) (high : isHigh u = true)
    (low : isLow v = true) (rest : List Char) :
    unicodeEscape.Takes (ds ++ '\\' :: 'u' :: (es ++ rest)) (Char.ofNat (pair u v)) rest := by
  have notLow : isLow u = false :=
    Bool.eq_false_iff.2 fun h => by simp [Utf16.not_isHigh_of_isLow h] at high
  refine (takes_hex4 h _).bind ?_
  simp only [notLow, high]
  refine (takes_escapePart '\\' _).bind <| (takes_escapePart 'u' _).bind <| (takes_hex4 h' rest).bind ?_
  rw [low]
  exact takes_pure _ rest

theorem fails_unicodeEscape_low (h : HexUnit ds u) (low : isLow u = true) (rest : List Char) :
    unicodeEscape.Fails (ds ++ rest) := by
  refine (takes_hex4 h rest).bind_fails ?_
  rw [low]
  exact fails_fail _ _

/-- Without the code of a low surrogate behind it a high one is no character. -/
theorem fails_unicodeEscape_high (h : HexUnit ds u) (high : isHigh u = true) (later : Spelled cs us)
    (single : ∀ v ∈ us.head?, isLow v = false) (rest : List Char) :
    unicodeEscape.Fails (ds ++ (cs ++ '"' :: rest)) := by
  have notLow : isLow u = false :=
    Bool.eq_false_iff.2 fun h => by simp [Utf16.not_isHigh_of_isLow h] at high
  refine (takes_hex4 h _).bind_fails ?_
  simp only [notLow, high]
  cases later with
  | nil => exact (fails_escapePart (by decide) _).bind
  | plain _ backslash => exact (fails_escapePart backslash _).bind
  | letter letter =>
    exact (takes_escapePart '\\' _).bind_fails
      (fails_escapePart (escaped?_of_mem_letters letter).2 _).bind
  | @code es cs v us hex _ =>
    rw [List.cons_append, List.cons_append, List.append_assoc]
    refine (takes_escapePart '\\' _).bind_fails <| (takes_escapePart 'u' _).bind_fails <|
      (takes_hex4 hex _).bind_fails ?_
    rw [single v rfl]
    exact fails_fail _ _

/-! ## Bodies of strings -/

/-- The text spelled: `us` are its units. -/
def Writes (us : List UInt16) (cs : List Char) : Prop := cs.flatMap ofChar = us

theorem writes_nil : Writes [] cs ↔ cs = [] := by
  rw [Writes, ← Utf16.decodeFrom_eq_ok_iff 0, Utf16.decodeFrom, Except.ok.injEq, eq_comm]

/-- One more character in front of what is read. -/
theorem Decides.cons (h : (textBody n).Decides input (Writes us) rest) (c : Char) :
    ((c :: ·) <$> textBody n).Decides input (Writes (ofChar c ++ us)) rest :=
  (h.map _).congr fun _ => Utf16.flatMap_eq_append_iff

theorem decides_textBody_plain (quote : c ≠ '"') (backslash : c ≠ '\\') (plain : 0x20 ≤ c.toNat)
    (later : (textBody n).Decides input (Writes us) rest) :
    (textBody (n + 1)).Decides (c :: input) (Writes (ofChar c ++ us)) rest := by
  have noControl : isControl c = false := by simpa [isControl] using plain
  refine (takes_peek? _).bind_decides ?_
  simp only [List.head?_cons, if_neg quote, if_neg backslash, noControl]
  exact (takes_advance c input).bind_decides (later.cons c)

theorem decides_textBody_escape {form : List Char} (escaped : escape.Takes form c input)
    (later : (textBody n).Decides input (Writes us) rest) :
    (textBody (n + 1)).Decides ('\\' :: form) (Writes (ofChar c ++ us)) rest :=
  (takes_peek? _).bind_decides <| (takes_advance '\\' _).bind_decides <|
    escaped.bind_decides (later.cons c)

theorem fails_textBody_escape {form : List Char} (escaped : escape.Fails form) :
    (textBody (n + 1)).Fails ('\\' :: form) :=
  (takes_peek? _).bind_fails <| (takes_advance '\\' _).bind_fails escaped.bind

theorem takes_escape_code (h : unicodeEscape.Takes input c rest) : escape.Takes ('u' :: input) c rest :=
  (takes_peek? _).bind <| (takes_advance 'u' _).seqRight h

theorem fails_escape_code (h : unicodeEscape.Fails input) : escape.Fails ('u' :: input) :=
  (takes_peek? _).bind_fails <| (takes_advance 'u' _).seqRight_fails h

/-- A low surrogate is spelled by its code. -/
theorem exists_of_spelled_low (h : Spelled cs (v :: us)) (low : isLow v = true) :
    ∃ es tail, cs = '\\' :: 'u' :: (es ++ tail) ∧ HexUnit es v ∧ Spelled tail us := by
  generalize hw : v :: us = w at h
  cases h with
  | nil => cases hw
  | @plain c _ us | @letter _ c _ us =>
    have notLow := Utf16.isLow_head_ofChar c us v (by rw [← hw]; rfl)
    rw [low] at notLow
    cases notLow
  | code hex later =>
    obtain ⟨rfl, rfl⟩ := List.cons.inj hw
    exact ⟨_, _, rfl, hex, later⟩

theorem decides_textBody (h : Spelled cs us) (hn : cs.length < n) (rest : List Char) :
    (textBody n).Decides (cs ++ '"' :: rest) (Writes us) rest := by
  induction n generalizing cs us with
  | zero => exact absurd hn (Nat.not_lt_zero _)
  | succ n ih =>
    cases h with
    | nil =>
      exact (takes_peek? _).bind_decides <| ((takes_advance '"' rest).seqRight
        (takes_pure [] rest)).decides fun _ => writes_nil
    | plain quote backslash plain later =>
      exact decides_textBody_plain quote backslash plain (ih later (by simpa using hn))
    | letter letter later =>
      refine decides_textBody_escape (takes_escape_letter letter _) (ih later ?_)
      simp only [List.length_cons] at hn
      omega
    | @code ds cs u us hex later =>
      simp only [List.length_cons, List.length_append] at hn
      rw [List.cons_append, List.cons_append, List.append_assoc]
      by_cases high : isHigh u = true
      · by_cases single : ∀ v ∈ us.head?, isLow v = false
        · exact (fails_textBody_escape (fails_escape_code
            (fails_unicodeEscape_high hex high later single rest))).decides
            (Utf16.flatMap_ne_of_high high single)
        · -- the low surrogate behind it, so that two codes are one character
          obtain ⟨v, us, rfl, low⟩ : ∃ v vs, us = v :: vs ∧ isLow v = true := by
            cases us <;> simp_all
          obtain ⟨es, tail, rfl, hex', later⟩ := exists_of_spelled_low later low
          simp only [List.length_cons, List.length_append] at hn
          have one := decides_textBody_escape (takes_escape_code
            (takes_unicodeEscape_pair hex hex' high low _)) (ih later (by omega))
          rw [Utf16.ofChar_pair high low] at one
          simpa using one
      · rw [Bool.not_eq_true] at high
        by_cases low : isLow u = true
        · exact (fails_textBody_escape (fails_escape_code
            (fails_unicodeEscape_low hex low _))).decides (Utf16.flatMap_ne_of_low low us)
        · rw [Bool.not_eq_true] at low
          have one := decides_textBody_escape (takes_escape_code
            (takes_unicodeEscape_unit hex high low _)) (ih later (by omega))
          rw [Utf16.ofChar_unit high low] at one
          exact one

/-- A string is read as the text that it spells, and refused where it spells none. -/
theorem decides_text (h : Spelled cs us) (rest : List Char) :
    text.Decides (cs ++ '"' :: rest) (fun s => (Utf16.ofUnits us).toString? = some s) rest := by
  have enough : cs.length < (cs ++ '"' :: rest).length + 1 := by
    simp only [List.length_append]
    omega
  refine (takes_fuel _).bind_decides <| ((decides_textBody h enough rest).map _).congr fun s => ?_
  rw [Utf16.toString?_eq_some_iff, Utf16.decode, Utf16.map_eq_ok_iff]
  simp only [Utf16.decodeFrom_eq_ok_iff, Writes, Utf16.units, Utf16.ofUnits, eq_comm (a := s)]

/-! ## Strings written -/

theorem spelled_writeChar (c : Char) (h : Spelled cs us) :
    Spelled (writeChar c ++ cs) (ofChar c ++ us) := by
  unfold writeChar
  split_ifs with quoted backspace formFeed lineFeed carriage tab control
  · simp only [Bool.or_eq_true, decide_eq_true_eq] at quoted
    rcases quoted with rfl | rfl <;> exact .letter (by decide) h
  · exact .letter (backspace ▸ by decide) h
  · exact .letter (formFeed ▸ by decide) h
  · exact .letter (lineFeed ▸ by decide) h
  · exact .letter (carriage ▸ by decide) h
  · exact .letter (tab ▸ by decide) h
  · have unit : ofChar c = [c.toNat.toUInt16] := by rw [ofChar, if_pos (by omega)]
    rw [unit]
    exact .code (hexUnit_hexDigits (by omega)) h
  · simp only [Bool.or_eq_true, decide_eq_true_eq, not_or] at quoted
    exact .plain quoted.1 quoted.2 (by simpa using control) h

theorem spelled_flatMap_writeChar (cs : List Char) :
    Spelled (cs.flatMap writeChar) (cs.flatMap ofChar) := by
  induction cs with
  | nil => exact .nil
  | cons c cs ih => exact spelled_writeChar c ih

/-- A string that is written is read, its opening quote apart. -/
theorem takes_text (s : String) (rest : List Char) :
    text.Takes (s.toList.flatMap writeChar ++ '"' :: rest) s rest := by
  rcases decides_text (spelled_flatMap_writeChar s.toList) rest with ⟨t, only, taken⟩ | ⟨none, -⟩
  · obtain rfl : s = t := (only s).1 (Utf16.toString?_ofString s)
    exact taken
  · exact absurd (Utf16.toString?_ofString s) (none s)

theorem toList_write (s : String) :
    (write s).toList = '"' :: (s.toList.flatMap writeChar ++ ['"']) := by
  simp [write]

end Reader

end Json

end Drawbridge
