import Drawbridge.Text.Utf16

/-!
# Text in units and back

Text that is written in units is read back as it was (`decode_ofString`): a character below
`U+10000` is a unit that is no surrogate, any other a pair.  Units that are read are those of the
text they are read as (`ofString_of_decode`), and all units are read in which no surrogate stands
alone (`exists_toString?_iff`).
-/

namespace Drawbridge.Utf16

/-! ## Units of a character -/

theorem isHigh_iff {u : UInt16} : isHigh u = true ↔ 0xD800 ≤ u.toNat ∧ u.toNat < 0xDC00 := by
  simp [isHigh]

theorem isLow_iff {u : UInt16} : isLow u = true ↔ 0xDC00 ≤ u.toNat ∧ u.toNat < 0xE000 := by
  simp [isLow]

theorem toNat_toUInt16 {n : Nat} (h : n < 0x10000) : n.toUInt16.toNat = n :=
  UInt16.toNat_ofNat_of_lt' h

theorem pair_eq {u v : UInt16} {a b : Nat} (hu : u.toNat = 0xD800 + a) (hv : v.toNat = 0xDC00 + b) :
    pair u v = 0x10000 + a * 0x400 + b := by
  unfold pair
  generalize u.toNat = m at hu
  generalize v.toNat = n at hv
  subst hu hv
  omega

/-- A code point is no surrogate. -/
theorem toNat_char (c : Char) : c.toNat < 0xD800 ∨ 0xE000 ≤ c.toNat ∧ c.toNat < 0x110000 := by
  have h : c.toNat < 0xD800 ∨ 0xDFFF < c.toNat ∧ c.toNat < 0x110000 := c.valid
  omega

theorem toNat_ofNat {n : Nat} (valid : n < 0xD800 ∨ 0xDFFF < n ∧ n < 0x110000) :
    (Char.ofNat n).toNat = n := by
  rw [Char.ofNat, dif_pos valid]
  rfl

/-! ## Reading -/

theorem decodeFrom_unit {u : UInt16} (high : isHigh u = false) (low : isLow u = false)
    (offset : Nat) (rest : List UInt16) :
    decodeFrom offset (u :: rest)
      = (Char.ofNat u.toNat :: ·) <$> decodeFrom (offset + unitBytes u) rest := by
  rw [decodeFrom.eq_def]
  simp [high, low]

theorem decodeFrom_pair {u v : UInt16} (high : isHigh u = true) (low : isLow v = true)
    (offset : Nat) (rest : List UInt16) :
    decodeFrom offset (u :: v :: rest)
      = (Char.ofNat (pair u v) :: ·) <$> decodeFrom (offset + 4) rest := by
  simp [decodeFrom, high, low]

/-- The units of a character are read as this character. -/
theorem decodeFrom_ofChar (offset : Nat) (c : Char) (rest : List UInt16) :
    ∃ offset', decodeFrom offset (ofChar c ++ rest) = (c :: ·) <$> decodeFrom offset' rest := by
  have hc := toNat_char c
  by_cases h : c.toNat < 0x10000
  · have hu := toNat_toUInt16 h
    have high : isHigh c.toNat.toUInt16 = false := by
      rw [Bool.eq_false_iff, ne_eq, isHigh_iff, hu]
      omega
    have low : isLow c.toNat.toUInt16 = false := by
      rw [Bool.eq_false_iff, ne_eq, isLow_iff, hu]
      omega
    refine ⟨offset + unitBytes c.toNat.toUInt16, ?_⟩
    rw [ofChar, if_pos h, List.singleton_append, decodeFrom_unit high low, hu, Char.ofNat_toNat]
  · have ha : (c.toNat - 0x10000) / 0x400 < 0x400 := by omega
    have hb : (c.toNat - 0x10000) % 0x400 < 0x400 := Nat.mod_lt _ (by decide)
    have hchar : 0x10000 + (c.toNat - 0x10000) / 0x400 * 0x400 + (c.toNat - 0x10000) % 0x400
        = c.toNat := by omega
    rw [ofChar, if_neg h]
    generalize (c.toNat - 0x10000) / 0x400 = a at ha hchar
    generalize (c.toNat - 0x10000) % 0x400 = b at hb hchar
    have hu : (0xD800 + a).toUInt16.toNat = 0xD800 + a := toNat_toUInt16 (by omega)
    have hv : (0xDC00 + b).toUInt16.toNat = 0xDC00 + b := toNat_toUInt16 (by omega)
    refine ⟨offset + 4, ?_⟩
    rw [List.cons_append, List.singleton_append,
      decodeFrom_pair (isHigh_iff.2 (by omega)) (isLow_iff.2 (by omega)), pair_eq hu hv, hchar,
      Char.ofNat_toNat]

theorem decodeFrom_flatMap (offset : Nat) (cs : List Char) :
    decodeFrom offset (cs.flatMap ofChar) = .ok cs := by
  induction cs generalizing offset with
  | nil => simp [decodeFrom]
  | cons c cs ih =>
    obtain ⟨offset', h⟩ := decodeFrom_ofChar offset c (cs.flatMap ofChar)
    rw [List.flatMap_cons, h, ih]
    rfl

theorem decode_ofString (s : String) : (ofString s).decode = .ok s := by
  unfold decode units ofString ofList ofUnits
  rw [decodeFrom_flatMap]
  exact congrArg Except.ok String.ofList_toList

@[simp] theorem toString?_ofString (s : String) : (ofString s).toString? = some s := by
  rw [toString?, decode_ofString]
  rfl

/-! ## What is read -/

theorem not_isHigh_of_isLow {u : UInt16} (low : isLow u = true) : isHigh u = false := by
  rw [isLow_iff] at low
  rw [Bool.eq_false_iff, ne_eq, isHigh_iff]
  omega

theorem ofChar_unit {u : UInt16} (high : isHigh u = false) (low : isLow u = false) :
    ofChar (Char.ofNat u.toNat) = [u] := by
  have hlt := u.toNat_lt
  rw [Bool.eq_false_iff, ne_eq, isHigh_iff] at high
  rw [Bool.eq_false_iff, ne_eq, isLow_iff] at low
  rw [ofChar, toNat_ofNat (by omega), if_pos hlt, Nat.toUInt16_eq, UInt16.ofNat_toNat]

theorem ofChar_pair {u v : UInt16} (high : isHigh u = true) (low : isLow v = true) :
    ofChar (Char.ofNat (pair u v)) = [u, v] := by
  rw [isHigh_iff] at high
  rw [isLow_iff] at low
  obtain ⟨a, ha⟩ := Nat.exists_eq_add_of_le high.1
  obtain ⟨b, hb⟩ := Nat.exists_eq_add_of_le low.1
  rw [pair_eq ha hb]
  have hdiv : (0x10000 + a * 0x400 + b - 0x10000) / 0x400 = a := by omega
  have hmod : (0x10000 + a * 0x400 + b - 0x10000) % 0x400 = b := by omega
  rw [ofChar, toNat_ofNat (by omega), if_neg (by omega), hdiv, hmod, ← ha, ← hb,
    Nat.toUInt16_eq, Nat.toUInt16_eq, UInt16.ofNat_toNat, UInt16.ofNat_toNat]

theorem map_eq_ok_iff {α β : Type} {f : α → β} {e : Except Nat α} {b : β} :
    f <$> e = .ok b ↔ ∃ a, e = .ok a ∧ f a = b := by
  cases e with
  | error offset => exact iff_of_false nofun nofun
  | ok a => exact ⟨fun h => ⟨a, rfl, Except.ok.inj h⟩, by rintro ⟨_, ⟨⟩, rfl⟩; rfl⟩

theorem exists_map_eq_ok_iff {α β : Type} {f : α → β} {e : Except Nat α} :
    (∃ b, f <$> e = .ok b) ↔ ∃ a, e = .ok a := by
  simp only [map_eq_ok_iff]
  exact ⟨fun ⟨_, a, h, _⟩ => ⟨a, h⟩, fun ⟨a, h⟩ => ⟨f a, a, h, rfl⟩⟩

/-- The units of what is read are those that were read. -/
theorem flatMap_of_decodeFrom {offset : Nat} {us : List UInt16} {cs : List Char}
    (h : decodeFrom offset us = .ok cs) : cs.flatMap ofChar = us := by
  induction offset, us using decodeFrom.induct generalizing cs with
  | case1 offset =>
    obtain rfl : [] = cs := Except.ok.inj h
    rfl
  | case2 offset u high => simp [decodeFrom, high] at h
  | case3 offset u high v rest low ih =>
    rw [decodeFrom_pair high low, map_eq_ok_iff] at h
    obtain ⟨cs, h, rfl⟩ := h
    rw [List.flatMap_cons, ofChar_pair high low, ih h]
    rfl
  | case4 offset u high v rest low => simp [decodeFrom, high, low] at h
  | case5 offset u rest high low =>
    rw [decodeFrom.eq_def] at h
    simp [high, low] at h
  | case6 offset u rest high low ih =>
    rw [Bool.not_eq_true] at high low
    rw [decodeFrom_unit high low, map_eq_ok_iff] at h
    obtain ⟨cs, h, rfl⟩ := h
    rw [List.flatMap_cons, ofChar_unit high low, ih h]
    rfl

theorem ofString_of_decode {s : Utf16} {t : String} (h : s.decode = .ok t) : ofString t = s := by
  obtain ⟨cs, hcs, rfl⟩ := map_eq_ok_iff.1 h
  rw [ofString, String.toList_ofList, ofList, flatMap_of_decodeFrom hcs]
  rfl

theorem decodeFrom_eq_ok_iff (offset : Nat) {us : List UInt16} {cs : List Char} :
    decodeFrom offset us = .ok cs ↔ cs.flatMap ofChar = us :=
  ⟨flatMap_of_decodeFrom, by rintro rfl; exact decodeFrom_flatMap offset cs⟩

/-- Units that begin with those of a character are those of a text that begins with it. -/
theorem flatMap_eq_append_iff {c : Char} {us : List UInt16} {cs : List Char} :
    cs.flatMap ofChar = ofChar c ++ us ↔ ∃ tail, tail.flatMap ofChar = us ∧ cs = c :: tail := by
  obtain ⟨offset, h⟩ := decodeFrom_ofChar 0 c us
  rw [← decodeFrom_eq_ok_iff 0, h, map_eq_ok_iff]
  simp only [decodeFrom_eq_ok_iff, eq_comm (a := cs)]

theorem flatMap_ne_of_low {u : UInt16} (low : isLow u = true) (us : List UInt16) (cs : List Char) :
    cs.flatMap ofChar ≠ u :: us := by
  rw [ne_eq, ← decodeFrom_eq_ok_iff 0, decodeFrom.eq_def]
  simp [not_isHigh_of_isLow low, low]

theorem flatMap_ne_of_high {u : UInt16} {us : List UInt16} (high : isHigh u = true)
    (single : ∀ v ∈ us.head?, isLow v = false) (cs : List Char) : cs.flatMap ofChar ≠ u :: us := by
  rw [ne_eq, ← decodeFrom_eq_ok_iff 0]
  cases us with
  | nil => simp [decodeFrom, high]
  | cons v us => simp [decodeFrom, high, single v rfl]

theorem exists_ofChar_cons (c : Char) : ∃ u us, ofChar c = u :: us := by
  unfold ofChar
  split
  · exact ⟨_, _, rfl⟩
  · exact ⟨_, _, rfl⟩

/-- The first unit of a character is no low surrogate. -/
theorem isLow_head_ofChar (c : Char) (us : List UInt16) :
    ∀ u ∈ (ofChar c ++ us).head?, isLow u = false := by
  obtain ⟨u, tail, hc⟩ := exists_ofChar_cons c
  rw [hc]
  rintro _ ⟨⟩
  rw [Bool.eq_false_iff]
  exact fun low => flatMap_ne_of_low low tail [c] (by simp [hc])

/-! ## Lone surrogates -/

/-- No surrogate stands alone: after a high one there is a low one, before a low one a high one. -/
structure Paired (us : List UInt16) : Prop where
  high : ∀ (i : Nat) (u : UInt16), us[i]? = some u → isHigh u = true →
    ∃ v, us[i + 1]? = some v ∧ isLow v = true
  low : ∀ (i : Nat) (v : UInt16), us[i]? = some v → isLow v = true →
    ∃ j u, j + 1 = i ∧ us[j]? = some u ∧ isHigh u = true

theorem paired_nil : Paired [] := ⟨by simp, by simp⟩

theorem Paired.exists_low {u : UInt16} {rest : List UInt16} (paired : Paired (u :: rest))
    (high : isHigh u = true) : ∃ v tail, rest = v :: tail ∧ isLow v = true := by
  obtain ⟨v, hv, low⟩ := paired.high 0 u rfl high
  cases rest with
  | nil => cases hv
  | cons w tail =>
    obtain rfl : w = v := Option.some.inj hv
    exact ⟨w, tail, rfl, low⟩

theorem Paired.not_low {u : UInt16} {rest : List UInt16} (paired : Paired (u :: rest)) :
    isLow u = false := by
  rw [Bool.eq_false_iff]
  intro low
  obtain ⟨j, -, hj, -⟩ := paired.low 0 u rfl low
  cases hj

/-- A unit that is no surrogate is no part of a pair. -/
theorem paired_unit {u : UInt16} {rest : List UInt16} (high : isHigh u = false)
    (low : isLow u = false) : Paired (u :: rest) ↔ Paired rest := by
  constructor
  · intro paired
    refine ⟨fun i => paired.high (i + 1), fun i v hv hlow => ?_⟩
    obtain ⟨j, w, hj, hw, hhigh⟩ := paired.low (i + 1) v hv hlow
    cases j with
    | zero => grind
    | succ j => exact ⟨j, w, Nat.succ.inj hj, hw, hhigh⟩
  · intro paired
    refine ⟨fun i w hw hhigh => ?_, fun i v hv hlow => ?_⟩
    · cases i with
      | zero => grind
      | succ i => exact paired.high i w hw hhigh
    · cases i with
      | zero => grind
      | succ i =>
        obtain ⟨j, w, rfl, hw, hhigh⟩ := paired.low i v hv hlow
        exact ⟨j + 1, w, rfl, hw, hhigh⟩

/-- A pair is complete in itself. -/
theorem paired_pair {u v : UInt16} {rest : List UInt16} (high : isHigh u = true)
    (low : isLow v = true) : Paired (u :: v :: rest) ↔ Paired rest := by
  have hu : isLow u = false := by
    rw [Bool.eq_false_iff]
    exact fun h => by simp [not_isHigh_of_isLow h] at high
  have hv := not_isHigh_of_isLow low
  constructor
  · intro paired
    refine ⟨fun i => paired.high (i + 2), fun i w hw hlow => ?_⟩
    obtain ⟨j, w', hj, hw', hhigh⟩ := paired.low (i + 2) w hw hlow
    match j with
    | 0 => omega
    | 1 => grind
    | j + 2 => exact ⟨j, w', by omega, hw', hhigh⟩
  · intro paired
    refine ⟨fun i w hw hhigh => ?_, fun i w hw hlow => ?_⟩
    · match i with
      | 0 => exact ⟨v, rfl, low⟩
      | 1 => grind
      | i + 2 => exact paired.high i w hw hhigh
    · match i with
      | 0 => grind
      | 1 => exact ⟨0, u, rfl, rfl, high⟩
      | i + 2 =>
        obtain ⟨j, w', rfl, hw', hhigh⟩ := paired.low i w hw hlow
        exact ⟨j + 2, w', rfl, hw', hhigh⟩

theorem exists_decodeFrom_iff (offset : Nat) (us : List UInt16) :
    (∃ cs, decodeFrom offset us = .ok cs) ↔ Paired us := by
  induction offset, us using decodeFrom.induct with
  | case1 offset => exact iff_of_true ⟨[], by simp [decodeFrom]⟩ paired_nil
  | case2 offset u high =>
    refine iff_of_false (by simp [decodeFrom, high]) fun paired => ?_
    obtain ⟨v, tail, h, -⟩ := paired.exists_low high
    cases h
  | case3 offset u high v rest low ih =>
    rw [decodeFrom_pair high low, paired_pair high low, ← ih, exists_map_eq_ok_iff]
  | case4 offset u high v rest low =>
    refine iff_of_false (by simp [decodeFrom, high, low]) fun paired => ?_
    obtain ⟨_, _, ⟨rfl, rfl⟩, hv⟩ := paired.exists_low high
    exact low hv
  | case5 offset u rest high low =>
    refine iff_of_false ?_ fun paired => by simp [paired.not_low] at low
    rw [decodeFrom.eq_def]
    simp [high, low]
  | case6 offset u rest high low ih =>
    rw [Bool.not_eq_true] at high low
    rw [decodeFrom_unit high low, paired_unit high low, ← ih, exists_map_eq_ok_iff]

theorem toString?_eq_some_iff {s : Utf16} {t : String} : s.toString? = some t ↔ s.decode = .ok t := by
  unfold toString?
  cases s.decode <;> simp [Except.toOption]

theorem exists_toString?_iff (s : Utf16) : (∃ t, s.toString? = some t) ↔ Paired s.units := by
  simp only [toString?_eq_some_iff]
  rw [← exists_decodeFrom_iff 0, decode, exists_map_eq_ok_iff]

end Drawbridge.Utf16
