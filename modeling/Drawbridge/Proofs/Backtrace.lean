import Drawbridge.Backtrace
import Drawbridge.Proofs.Text.Digits
import Mathlib.Data.List.Infix

/-!
# Lines of a file in a backtrace

`Backtrace.lineIn` looks for a text, `file:` before a number, and knows nothing of frames.  Where this
text stands in front of the file's own places only, the line is that of the file's first frame
(`lineIn_of_onlyOwn`).  Where names have no colon, frames are read one by one: a frame counts for
every text that its own line has in front of a colon (`lineIn_render`).
-/

namespace Drawbridge

/-! ## Frames -/

namespace Frame

/-- The text of a frame in front of its place. -/
def lead (f : Frame) : List Char :=
  match f.name with
  | some name => "    at ".toList ++ name.toList ++ " (".toList
  | none => "    at ".toList

/-- The text of a frame after its place, up to the line end. -/
def closing (f : Frame) : List Char := if f.name.isSome then [')'] else []

/-- The numbers of a place are those of a place in some text. -/
def Fits (f : Frame) : Prop :=
  ∀ p ∈ f.place, p.line < UInt32.size ∧ p.column < UInt32.size

/-- The line of a frame in the file. -/
def lineOf? (file : String) (f : Frame) : Option Nat :=
  f.place.bind fun p => if p.file = file then some p.line else none

/-- The number that a frame gives for a file's name: its line if what is in front of the line ends in
the name, else its column if the line does. -/
def reading? (file : String) (f : Frame) : Option Nat :=
  f.place.bind fun p =>
    if file.toList <:+ f.lead ++ p.file.toList then some p.line
    else if file.toList <:+ Nat.toDigits 10 p.line then some p.column
    else none

/-- No name in the frame has a colon. -/
structure Plain (f : Frame) : Prop where
  name : ∀ name ∈ f.name, ':' ∉ name.toList
  file : ∀ p ∈ f.place, ':' ∉ p.file.toList

variable {f : Frame} {p : Place}

theorem toList_render (hp : f.place = some p) :
    f.render.toList = f.lead ++ p.file.toList ++ ':' :: (Nat.toDigits 10 p.line ++
      ':' :: (Nat.toDigits 10 p.column ++ (f.closing ++ ['\n']))) := by
  unfold render lead closing Place.render
  cases hn : f.name <;> simp [hp, String.toList_append]

theorem lineOf?_eq_some_iff {file : String} {line : Nat} :
    f.lineOf? file = some line ↔ ∃ p, f.place = some p ∧ p.file = file ∧ p.line = line := by
  simp [lineOf?, Option.bind_eq_some_iff]

theorem lineOf?_ne_none {file : String} (hp : f.place = some p) (hfile : p.file = file) :
    f.lineOf? file ≠ none := by
  rw [lineOf?_eq_some_iff.2 ⟨p, hp, hfile, rfl⟩]
  simp

theorem not_mem_lead (plain : f.Plain) : ':' ∉ f.lead := by
  unfold lead
  cases hn : f.name with
  | none => decide
  | some name => simpa using plain.name name hn

/-- A frame gives the number that it should, unless its text ends in the name of a file that is not
its own. -/
theorem reading?_eq_lineOf?_iff {file : String} :
    f.reading? file = f.lineOf? file ↔
      ∀ p ∈ f.place, file.toList <:+ f.lead ++ p.file.toList ∨
        file.toList <:+ Nat.toDigits 10 p.line → p.file = file := by
  unfold reading? lineOf?
  cases f.place with
  | none => simp
  | some p =>
    simp only [Option.bind_some, Option.mem_some, forall_eq']
    by_cases own : p.file = file
    · subst own
      simp
    · rw [if_neg own]
      split_ifs <;> simp [*]

theorem reading?_lt {file : String} {n : Nat} (fits : f.Fits) (h : f.reading? file = some n) :
    n < UInt32.size := by
  obtain ⟨p, hp, h⟩ := Option.bind_eq_some_iff.1 h
  obtain ⟨hline, hcolumn⟩ := fits p hp
  split_ifs at h
  · exact Option.some.inj h ▸ hline
  · exact Option.some.inj h ▸ hcolumn

end Frame

namespace Backtrace

/-! ## Numbers -/

theorem leadingLine?_toDigits {n : Nat} (hn : n < UInt32.size) {rest : List Char}
    (stop : ∀ c ∈ rest.head?, c.isDigit = false) :
    leadingLine? (Nat.toDigits 10 n ++ rest) = some n.toUInt32 := by
  have digits : (Nat.toDigits 10 n ++ rest).takeWhile Char.isDigit = Nat.toDigits 10 n :=
    takeWhile_run (fun _ => isDigit_of_mem_toDigits) stop
  have value : Nat.ofDigitChars 10 (Nat.toDigits 10 n) 0 = n := Nat.ofDigitChars_ten_toDigits
  unfold Nat.ofDigitChars at value
  unfold leadingLine?
  simp only [digits, value]
  simp [Nat.toDigits_ne_nil, hn]

/-! ## Occurrences -/

variable {marker before after text : List Char}

theorem search_skip (skipped rest : List Char) :
    search marker skipped.length (skipped ++ rest) = search marker 0 rest := by
  induction skipped with
  | nil => rfl
  | cons c skipped ih => exact ih

theorem search_cons_of_absent {c : Char} {rest : List Char} (h : ¬ marker <+: c :: rest) :
    search marker 0 (c :: rest) = search marker 0 rest := by
  rw [search, if_neg (by simpa using h)]

/-- An occurrence gives its number, if it has one. -/
theorem search_marker (hm : marker ≠ []) :
    search marker 0 (marker ++ after) = (leadingLine? after).or (search marker 0 after) := by
  obtain ⟨c, rest, rfl⟩ := List.exists_cons_of_ne_nil hm
  have skipped : search (c :: rest) ((c :: rest).length - 1) (rest ++ after) =
      search (c :: rest) 0 after := search_skip rest after
  rw [List.cons_append, search, if_pos (by simp), ← List.cons_append, List.drop_left, skipped]
  cases leadingLine? after <;> rfl

/-- The first occurrence of the marker has the line. -/
theorem search_of_first {line : UInt32} (hm : marker ≠ []) (hline : leadingLine? after = some line)
    (first : ∀ b a, before ++ (marker ++ after) = b ++ (marker ++ a) → before.length ≤ b.length) :
    search marker 0 (before ++ (marker ++ after)) = some line := by
  induction before with
  | nil =>
    rw [List.nil_append, search_marker hm, hline]
    rfl
  | cons c before ih =>
    rw [List.cons_append, search_cons_of_absent]
    · exact ih fun b a h => Nat.le_of_succ_le_succ (first (c :: b) a (congrArg (c :: ·) h))
    · rintro ⟨a, ha⟩
      exact absurd (first [] a ha.symm) (by simp)

theorem search_eq_none (absent : ∀ b a, text ≠ b ++ (marker ++ a)) : search marker 0 text = none := by
  induction text with
  | nil => rfl
  | cons c rest ih =>
    rw [search_cons_of_absent]
    · exact ih fun b a h => absent (c :: b) a (congrArg (c :: ·) h)
    · rintro ⟨a, ha⟩
      exact absent [] a ha.symm

/-! ## Marks that stand at their own places only -/

/-- `file:` stands in the backtrace only in front of the numbers of the file's own places. -/
def OnlyOwn (file : String) (frames : List Frame) : Prop :=
  ∀ before after, (render frames).toList = before ++ (file.toList ++ [':'] ++ after) →
    ∃ earlier f later p, frames = earlier ++ f :: later ∧ f.place = some p ∧ p.file = file ∧
      before = (render earlier).toList ++ f.lead

theorem toList_render_append (earlier later : List Frame) :
    (render (earlier ++ later)).toList = (render earlier).toList ++ (render later).toList := by
  simp [render, String.toList_join]

theorem toList_render_cons (f : Frame) (later : List Frame) :
    (render (f :: later)).toList = f.render.toList ++ (render later).toList := by
  simp [render, String.toList_join]

/-- The first frame that has a property stands before every other one that has it. -/
theorem length_lead_le {earlier later earlier' later' : List Frame} {f f' : Frame}
    (h : earlier ++ f :: later = earlier' ++ f' :: later') (hf : f.place.isSome)
    (new : f' ∉ earlier) :
    ((render earlier).toList ++ f.lead).length ≤ ((render earlier').toList ++ f'.lead).length := by
  rcases List.append_eq_append_iff.1 h with ⟨_ | ⟨g, between⟩, rfl, split⟩ | ⟨_ | ⟨g, between⟩, rfl, split⟩
  · obtain ⟨rfl, -⟩ := List.cons.inj split
    simp
  · obtain ⟨rfl, -⟩ := List.cons.inj split
    obtain ⟨p, hp⟩ := Option.isSome_iff_exists.1 hf
    rw [toList_render_append, toList_render_cons, Frame.toList_render hp]
    simp only [List.length_append]
    omega
  · obtain ⟨rfl, -⟩ := List.cons.inj split
    simp
  · obtain ⟨rfl, -⟩ := List.cons.inj split
    simp at new

/-- A file whose mark stands at its own places only gets the line of its first frame. -/
theorem lineIn_of_onlyOwn {file : String} {frames : List Frame} (fits : ∀ f ∈ frames, f.Fits)
    (own : OnlyOwn file frames) :
    (lineIn file (render frames)).map UInt32.toNat = frames.findSome? (·.lineOf? file) := by
  cases hline : frames.findSome? (·.lineOf? file) with
  | none =>
    rw [lineIn, search_eq_none, Option.map_none]
    intro before after h
    obtain ⟨earlier, f, later, p, rfl, hp, hfile, -⟩ := own before after h
    exact Frame.lineOf?_ne_none hp hfile (List.findSome?_eq_none_iff.1 hline f (by simp))
  | some line =>
    obtain ⟨earlier, f, later, rfl, hf, others⟩ := List.findSome?_eq_some_iff.1 hline
    obtain ⟨p, hp, rfl, rfl⟩ := Frame.lineOf?_eq_some_iff.1 hf
    have small := (fits f (by simp) p hp).1
    obtain ⟨tail, text⟩ : ∃ tail, (render (earlier ++ f :: later)).toList =
        ((render earlier).toList ++ f.lead) ++
          (p.file.toList ++ [':'] ++ (Nat.toDigits 10 p.line ++ ':' :: tail)) := by
      refine ⟨Nat.toDigits 10 p.column ++ (f.closing ++ '\n' :: (render later).toList), ?_⟩
      rw [toList_render_append, toList_render_cons, Frame.toList_render hp]
      simp
    have number : leadingLine? (Nat.toDigits 10 p.line ++ ':' :: tail) = some p.line.toUInt32 :=
      leadingLine?_toDigits small (by simp)
    -- an occurrence is in front of a place of the file's own, and no frame before `f` has such a place
    have marked : p.file.toList ++ [':'] ≠ [] := by simp
    have found := search_of_first marked number fun b a h => by
      obtain ⟨earlier', f', later', p', hframes, hp', hfile', rfl⟩ := own b a (text.trans h)
      exact length_lead_le hframes (by simp [hp]) fun hf' =>
        Frame.lineOf?_ne_none hp' hfile' (others f' hf')
    rw [lineIn, text, found, Option.map_some, Nat.toUInt32_eq, UInt32.toNat_ofNat_of_lt' small]

/-! ## Names without colons -/

variable {file heading rest : List Char}

theorem mark_prefix_iff (hfile : ':' ∉ file) (hheading : ':' ∉ heading) :
    file ++ [':'] <+: heading ++ ':' :: rest ↔ file = heading := by
  constructor
  · intro h
    have own : heading ++ [':'] <+: heading ++ ':' :: rest := ⟨rest, by simp⟩
    rcases List.prefix_or_prefix_of_prefix h own with h | h <;>
      rcases List.prefix_concat_iff.1 h with h | h
    · exact List.append_cancel_right h
    · exact absurd (h.subset (by simp)) hheading
    · exact (List.append_cancel_right h).symm
    · exact absurd (h.subset (by simp)) hfile
  · rintro rfl
    exact ⟨rest, by simp⟩

/-- A colon counts if the text in front of it, since the colon before, ends in the file's name. -/
theorem search_colon (hfile : ':' ∉ file) (hheading : ':' ∉ heading) :
    search (file ++ [':']) 0 (heading ++ ':' :: rest) =
      if file <:+ heading then (leadingLine? rest).or (search (file ++ [':']) 0 rest)
      else search (file ++ [':']) 0 rest := by
  -- on the text in front of the colon, as the mark may begin anywhere in it
  induction heading with
  | nil =>
    by_cases whole : file = []
    · subst whole
      exact search_marker (by simp)
    · rw [List.nil_append, if_neg (by simpa using whole), search_cons_of_absent
        (mt (mark_prefix_iff hfile hheading).1 whole)]
  | cons c heading ih =>
    by_cases whole : file = c :: heading
    · rw [← whole, if_pos List.suffix_rfl, ← search_marker (by simp)]
      simp
    · have notHere : ¬ file ++ [':'] <+: c :: (heading ++ ':' :: rest) :=
        mt (mark_prefix_iff hfile hheading).1 whole
      rw [List.cons_append, search_cons_of_absent notHere,
        ih fun h => hheading (List.mem_cons_of_mem _ h)]
      simp [List.suffix_cons_iff, whole]

/-- A line without colons has no mark in it. -/
theorem search_line (hfile : '\n' ∉ file) (hheading : ':' ∉ heading) :
    search (file ++ [':']) 0 (heading ++ '\n' :: rest) = search (file ++ [':']) 0 rest := by
  have apart (heading : List Char) (hheading : ':' ∉ heading) :
      ¬ file ++ [':'] <+: heading ++ '\n' :: rest := by
    intro h
    have own : heading ++ ['\n'] <+: heading ++ '\n' :: rest := ⟨rest, by simp⟩
    rcases List.prefix_or_prefix_of_prefix h own with h | h
    · simpa [hheading] using h.subset (List.mem_append_right file (List.mem_singleton_self ':'))
    · simpa [hfile] using h.subset (List.mem_append_right heading (List.mem_singleton_self '\n'))
  induction heading with
  | nil => exact search_cons_of_absent (apart [] hheading)
  | cons c heading ih =>
    have notHere : ¬ file ++ [':'] <+: c :: (heading ++ '\n' :: rest) := apart (c :: heading) hheading
    rw [List.cons_append, search_cons_of_absent notHere]
    exact ih fun h => hheading (List.mem_cons_of_mem _ h)

/-! ## Frames one by one -/

theorem search_frame {file : String} {f : Frame} (hfile : ':' ∉ file.toList)
    (oneLine : '\n' ∉ file.toList) (plain : f.Plain) (fits : f.Fits) (rest : List Char) :
    search (file.toList ++ [':']) 0 (f.render.toList ++ rest) =
      ((f.reading? file).map Nat.toUInt32).or (search (file.toList ++ [':']) 0 rest) := by
  cases hp : f.place with
  | none =>
    have unread : f.reading? file = none := by simp [Frame.reading?, hp]
    rw [unread]
    cases hn : f.name with
    | none => simp [Frame.render, hp, hn]
    | some name =>
      have text : f.render.toList ++ rest =
          ("    at ".toList ++ name.toList ++ " (native)".toList) ++ '\n' :: rest := by
        simp [Frame.render, hp, hn, String.toList_append]
      rw [text, search_line oneLine (by simpa using plain.name name hn)]
      rfl
  | some p =>
    obtain ⟨hline, hcolumn⟩ := fits p hp
    have hclosing : ':' ∉ Nat.toDigits 10 p.column ++ f.closing := by
      unfold Frame.closing
      split_ifs <;> simp [not_mem_toDigits]
    have text : f.render.toList ++ rest = (f.lead ++ p.file.toList) ++ ':' ::
        (Nat.toDigits 10 p.line ++ ':' :: (Nat.toDigits 10 p.column ++ f.closing ++ '\n' :: rest)) := by
      rw [Frame.toList_render hp]
      simp
    have column : leadingLine? (Nat.toDigits 10 p.column ++ f.closing ++ '\n' :: rest) =
        some p.column.toUInt32 := by
      rw [List.append_assoc]
      unfold Frame.closing
      split_ifs <;> exact leadingLine?_toDigits hcolumn (by simp)
    have hheading : ':' ∉ f.lead ++ p.file.toList := by
      simp [Frame.not_mem_lead plain, plain.file p hp]
    rw [text, search_colon hfile hheading, search_colon hfile (not_mem_toDigits (by decide)), column,
      search_line oneLine hclosing, leadingLine?_toDigits hline (by simp)]
    simp only [Frame.reading?, hp, Option.bind_some]
    split_ifs <;> rfl

/-- Where names have no colon, the frames are read in turn, and the first that gives a number gives
the answer. -/
theorem lineIn_render {file : String} (hfile : ':' ∉ file.toList) (oneLine : '\n' ∉ file.toList)
    {frames : List Frame} (plain : ∀ f ∈ frames, f.Plain) (fits : ∀ f ∈ frames, f.Fits) :
    (lineIn file (render frames)).map UInt32.toNat = frames.findSome? (·.reading? file) := by
  induction frames with
  | nil => rfl
  | cons f frames ih =>
    rw [List.forall_mem_cons] at plain fits
    rw [lineIn, toList_render_cons, search_frame hfile oneLine plain.1 fits.1,
      List.findSome?_cons]
    cases h : f.reading? file with
    | none => exact ih plain.2 fits.2
    | some n => exact congrArg some (UInt32.toNat_ofNat_of_lt' (Frame.reading?_lt fits.1 h))

/-- A file gets the line of its first frame, and none without a frame, where its mark stands at its own
places only.  Where names have no colon, it gets the number of the first frame that gives one; and this
is right for all backtraces of some frames just if none of them has a text that ends in the file's name
without being the file's own. -/
theorem lineIn_own_iff (file : String) :
    (∀ frames, (∀ f ∈ frames, f.Fits) → OnlyOwn file frames →
      (lineIn file (render frames)).map UInt32.toNat = frames.findSome? (·.lineOf? file)) ∧
    (':' ∉ file.toList → '\n' ∉ file.toList →
      (∀ frames, (∀ f ∈ frames, f.Plain) → (∀ f ∈ frames, f.Fits) →
        (lineIn file (render frames)).map UInt32.toNat = frames.findSome? (·.reading? file)) ∧
      ∀ Given : Frame → Prop, (∀ f, Given f → f.Plain ∧ f.Fits) →
        ((∀ frames, (∀ f ∈ frames, Given f) →
            (lineIn file (render frames)).map UInt32.toNat = frames.findSome? (·.lineOf? file)) ↔
          ∀ f, Given f → ∀ p ∈ f.place, file.toList <:+ f.lead ++ p.file.toList ∨
            file.toList <:+ Nat.toDigits 10 p.line → p.file = file)) := by
  refine ⟨fun frames fits => lineIn_of_onlyOwn fits, fun hfile oneLine =>
    ⟨fun frames plain fits => lineIn_render hfile oneLine plain fits, fun Given given => ?_⟩⟩
  have read (frames : List Frame) (hframes : ∀ f ∈ frames, Given f) :=
    lineIn_render hfile oneLine (fun f hf => (given f (hframes f hf)).1)
      fun f hf => (given f (hframes f hf)).2
  constructor
  · intro right f hf
    have alone : ∀ g ∈ [f], Given g := by simpa using hf
    have same := (read [f] alone).symm.trans (right [f] alone)
    rw [← Frame.reading?_eq_lineOf?_iff]
    simpa using same
  · intro own frames hframes
    rw [read frames hframes, ← List.head?_filterMap, ← List.head?_filterMap]
    exact congrArg List.head? <| List.filterMap_congr fun f hf =>
      Frame.reading?_eq_lineOf?_iff.2 (own f (hframes f hf))

/-- A frame in `domain.js` passes for one in `main.js`.  A file with a colon in its name gets its own
line as long as its mark stands nowhere else. -/
theorem lineIn_own_iff_domain :
    let frames : List Frame :=
      [⟨some "boom", some ⟨"domain.js", 3, 29⟩⟩, ⟨some "<eval>", some ⟨"main.js", 1, 5⟩⟩]
    (lineIn "main.js" (render frames)).map UInt32.toNat = some 3 ∧
      frames.findSome? (·.lineOf? "main.js") = some 1 ∧
      (lineIn "app:x" (render [⟨some "f", some ⟨"app:x", 7, 2⟩⟩])).map UInt32.toNat = some 7 := by
  intro frames
  have plain : ∀ f ∈ frames, f.Plain := by
    simp only [frames, List.forall_mem_cons]
    exact ⟨⟨by decide, by decide⟩, ⟨by decide, by decide⟩, by simp⟩
  have fits : ∀ f ∈ frames, f.Fits := by
    simp only [frames, List.forall_mem_cons, Frame.Fits]
    exact ⟨by decide, by decide, by simp⟩
  have own : OnlyOwn "app:x" [⟨some "f", some ⟨"app:x", 7, 2⟩⟩] := by
    intro before after h
    have only : ∀ i < 21, "app:x:".toList <+: "    at f (app:x:7:2)\n".toList.drop i → i = 10 := by
      decide
    have text : (render [⟨some "f", some ⟨"app:x", 7, 2⟩⟩]).toList = "    at f (app:x:7:2)\n".toList := by
      decide
    rw [text] at h
    have inside : before.length < 21 := by
      have length := congrArg List.length h
      simp at length
      omega
    have mark : "app:x:".toList <+: "    at f (app:x:7:2)\n".toList.drop before.length := by
      rw [h, List.drop_left]
      exact ⟨after, rfl⟩
    refine ⟨[], _, [], _, rfl, rfl, rfl, ?_⟩
    have lead := congrArg (List.take before.length) h
    rw [List.take_left, only _ inside mark] at lead
    exact lead.symm
  exact ⟨((lineIn_own_iff "main.js").2 (by decide) (by decide)).1 frames plain fits, by decide,
    (lineIn_own_iff "app:x").1 _ (by simp [Frame.Fits, UInt32.size]) own⟩

end Backtrace

end Drawbridge
