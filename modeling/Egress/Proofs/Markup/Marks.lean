import Egress.Markup.Basic

/-!
# Marks

Marks are the characters that are not printed as they are: brackets, backslashes and colons may be
read as markup, tabs are expanded, and control characters are left out. Text that is printed can
lose marks, and nothing that is put in its place has any. So a text is printed as it is only if its
marks are all there.

## Key results

- `marks`: the number of marks in a text
- `marks_ofName?`: emoji have no marks
-/

namespace Egress.Markup

open Egress.Text

/-- Whether a character is not printed as it is. -/
def isMark (c : Char) : Bool := ['[', '\\', ':', '\t'].contains c || isControl c

/-- From the blank on, no character is a control character. -/
theorem isControl_of_le {c : Char} (h : 0x20 ≤ c.toNat) : isControl c = false := by
  have hsmall : ∀ m ∈ [0x07, 0x08, 0x0B, 0x0C, 0x0D], m < 0x20 := by decide
  rw [isControl, ← Bool.not_eq_true, List.contains_iff_mem]
  intro hmem
  have := hsmall _ hmem
  omega

/-- The number of marks in a text. -/
def marks (s : List Char) : Nat := s.countP isMark

theorem marks_nil : marks [] = 0 := rfl

/-- Marks are counted character by character. -/
theorem marks_append (s t : List Char) : marks (s ++ t) = marks s + marks t := List.countP_append

/-- The marks of the first character come on top of the others. -/
theorem marks_cons (c : Char) (s : List Char) : marks (c :: s) = marks [c] + marks s :=
  marks_append [c] s

/-- A mark in front is one more. -/
theorem marks_cons_of_isMark {c : Char} (hc : isMark c = true) (s : List Char) :
    marks (c :: s) = marks s + 1 := List.countP_cons_of_pos hc

/-- A character that is no mark counts nothing. -/
theorem marks_cons_of_not_isMark {c : Char} (hc : isMark c = false) (s : List Char) :
    marks (c :: s) = marks s := List.countP_cons_of_neg (by rw [hc]; exact Bool.false_ne_true)

/-- A text has no marks when none of its characters is one. -/
theorem marks_eq_zero {s : List Char} : marks s = 0 ↔ ∀ c ∈ s, isMark c = false := by
  simp [marks, List.countP_eq_zero]

/-- A part of a text has no more marks. -/
theorem marks_le_of_sublist {s t : List Char} (h : s.Sublist t) : marks s ≤ marks t :=
  h.countP_le

/-- However often it is repeated, what is no mark counts nothing. -/
theorem marks_replicate {c : Char} (hc : isMark c = false) (n : Nat) :
    marks (List.replicate n c) = 0 :=
  marks_eq_zero.2 fun _ hd => (List.eq_of_mem_replicate hd) ▸ hc

/-- Characters that are taken out take their marks with them. -/
theorem marks_filter (p : Char → Bool) (s : List Char) : marks (s.filter p) ≤ marks s ∧
    ((∃ c ∈ s, isMark c = true ∧ p c = false) → marks (s.filter p) < marks s) := by
  refine ⟨marks_le_of_sublist List.filter_sublist, ?_⟩
  rintro ⟨c, hc, hmark, hp⟩
  obtain ⟨before, after, rfl⟩ := List.append_of_mem hc
  have hbefore := marks_le_of_sublist (List.filter_sublist (l := before) (p := p))
  have hafter := marks_le_of_sublist (List.filter_sublist (l := after) (p := p))
  rw [List.filter_append, List.filter_cons_of_neg (by simp [hp]), marks_append, marks_append,
    marks_cons_of_isMark hmark]
  omega

/-- The number of marks in lines. -/
def lineMarks (lines : List (List Char)) : Nat := marks lines.flatten

theorem lineMarks_nil : lineMarks [] = 0 := rfl

/-- The marks of the first line come on top of the others. -/
theorem lineMarks_cons (line : List Char) (lines : List (List Char)) :
    lineMarks (line :: lines) = marks line + lineMarks lines := by
  rw [lineMarks, List.flatten_cons, marks_append, lineMarks]

/-- Marks are counted line by line. -/
theorem lineMarks_append (a b : List (List Char)) :
    lineMarks (a ++ b) = lineMarks a + lineMarks b := by
  rw [lineMarks, List.flatten_append, marks_append, lineMarks, lineMarks]

/-- Lines that are changed one by one have no more marks if none of them has, and less if one of
them has. -/
theorem lineMarks_map_le {f : List Char → List Char} (hf : ∀ s, marks (f s) ≤ marks s)
    (lines : List (List Char)) : lineMarks (lines.map f) ≤ lineMarks lines ∧
      ((∃ s ∈ lines, marks (f s) < marks s) → lineMarks (lines.map f) < lineMarks lines) := by
  -- By induction on the lines; the line that loses marks is this one or one of the rest.
  induction lines with
  | nil => exact ⟨Nat.le_refl 0, by simp⟩
  | cons line rest ih =>
    have hline := hf line
    rw [List.map_cons, lineMarks_cons, lineMarks_cons]
    refine ⟨by omega, ?_⟩
    rintro ⟨s, hs, hlt⟩
    rcases List.mem_cons.1 hs with rfl | hs
    · omega
    · have := ih.2 ⟨s, hs, hlt⟩
      omega

/-- Lines that are broken up one by one have no more marks if none of them has. -/
theorem lineMarks_flatMap_le {f : List Char → List (List Char)}
    (hf : ∀ s, lineMarks (f s) ≤ marks s) (lines : List (List Char)) :
    lineMarks (lines.flatMap f) ≤ lineMarks lines := by
  induction lines with
  | nil => exact Nat.le_refl 0
  | cons line rest ih =>
    have := hf line
    rw [List.flatMap_cons, lineMarks_append, lineMarks_cons]
    omega

/-! ### Emoji -/

namespace Emoji

/-- Whether the emoji on a page have no marks. -/
def isUnmarked (page : List Char) : Bool :=
  (words page).all fun item => (ofText item).text.all (!isMark ·)

/-- The emoji on pages have no marks if those on the first and those on the others have none. -/
private theorem isUnmarked_cons {page : List Char} {rest : List String}
    (h : isUnmarked page = true) (hrest : ∀ p ∈ rest, isUnmarked p.toList = true) :
    ∀ p ∈ String.ofList page :: rest, isUnmarked p.toList = true :=
  List.forall_mem_cons.2 ⟨by rwa [String.toList_ofList], hrest⟩

-- each page is a text that is read by recursion on its characters
set_option maxRecDepth 20000 in
/-- There is no mark on the first twenty pages. -/
private theorem isUnmarked_take : ∀ p ∈ pages.take 20, isUnmarked p.toList = true := by
  simp only [pages, List.take_succ_cons, List.take_zero]
  repeat
    refine isUnmarked_cons ?_ ?_
    · decide +kernel
  exact List.forall_mem_nil _

set_option maxRecDepth 20000 in
/-- There is none on the next twenty. -/
private theorem isUnmarked_take_drop :
    ∀ p ∈ (pages.drop 20).take 20, isUnmarked p.toList = true := by
  simp only [pages, List.drop_succ_cons, List.drop_zero, List.take_succ_cons, List.take_zero]
  repeat
    refine isUnmarked_cons ?_ ?_
    · decide +kernel
  exact List.forall_mem_nil _

set_option maxRecDepth 20000 in
/-- There is none on the others. -/
private theorem isUnmarked_drop : ∀ p ∈ (pages.drop 20).drop 20, isUnmarked p.toList = true := by
  simp only [pages, List.drop_succ_cons, List.drop_zero]
  repeat
    refine isUnmarked_cons ?_ ?_
    · decide +kernel
  exact List.forall_mem_nil _

/-- The emoji in the table have no marks. -/
theorem marks_of_mem_table {e : Emoji} (h : e ∈ table) : marks e.text = 0 := by
  obtain ⟨page, hpage, h⟩ := List.mem_flatMap.1 h
  obtain ⟨item, hitem, rfl⟩ := List.mem_map.1 h
  -- The page is in one of the three parts of the table.
  have hall : isUnmarked page.toList = true := by
    rw [← List.take_append_drop 20 pages, ← List.take_append_drop 20 (pages.drop 20)] at hpage
    rcases List.mem_append.1 hpage with hpage | hpage
    · exact isUnmarked_take page hpage
    · rcases List.mem_append.1 hpage with hpage | hpage
      · exact isUnmarked_take_drop page hpage
      · exact isUnmarked_drop page hpage
  have htext := List.all_eq_true.1 hall item hitem
  exact marks_eq_zero.2 fun c hc => by simpa using List.all_eq_true.1 htext c hc

/-- A skin tone adds no marks. -/
theorem marks_withTone {tone : Char} (htone : isMark tone = false) {s : List Char}
    (h : marks s = 0) : marks (withTone tone s) = 0 := by
  rw [marks_eq_zero] at h ⊢
  have hmem : ∀ c ∈ withTone tone s, c = tone ∨ c ∈ s := by
    intro c hc
    -- By the length of the text: the tone is put behind the first character, in the place of a
    -- selector.
    match s with
    | [] => exact .inl (List.mem_singleton.1 hc)
    | [d] =>
      rcases List.mem_cons.1 hc with rfl | hc
      · exact .inr List.mem_cons_self
      · exact .inl (List.mem_singleton.1 hc)
    | d :: d' :: rest =>
      simp only [withTone, List.mem_cons] at hc ⊢
      rcases hc with hc | hc | hc
      · exact .inr (.inl hc)
      · exact .inl hc
      · split at hc
        · exact .inr (.inr (.inr hc))
        · exact .inr (.inr (List.mem_cons.1 hc))
  intro c hc
  rcases hmem c hc with rfl | hc
  · exact htone
  · exact h c hc

/-- No emoji has marks. -/
theorem marks_of_find? {name : List Char} {e : Emoji} (h : find? name = some e) :
    marks e.text = 0 := by
  rw [find?] at h
  have hmem : e ∈ table := List.mem_of_find?_eq_some h
  exact marks_of_mem_table hmem

/-- An emoji in a skin tone has no marks. -/
theorem marks_toned? {name e : List Char} (h : toned? name = some e) : marks e = 0 := by
  have hfind : ∀ n f, find? n = some f → marks f.text = 0 := fun _ _ hf => marks_of_find? hf
  have htones : (tones.all fun t => !isMark t.2) = true := by decide +kernel
  unfold toned? at h
  -- without this, the whole table would be read
  generalize find? = find at h hfind
  obtain ⟨⟨word, tone⟩, htone, h⟩ := List.exists_of_findSome?_eq_some h
  obtain ⟨_, h⟩ := Option.ite_none_right_eq_some.1 h
  split at h
  · rename_i f hname
    obtain ⟨_, h⟩ := Option.ite_none_right_eq_some.1 h
    cases h
    refine marks_withTone ?_ (hfind _ _ hname)
    simpa using List.all_eq_true.1 htones _ htone
  · cases h

/-- The emoji of a name has no marks. -/
theorem marks_ofName? {name e : List Char} (h : ofName? name = some e) : marks e = 0 := by
  unfold ofName? at h
  rcases Option.or_eq_some_iff.1 h with h | ⟨_, h⟩
  · obtain ⟨f, hf, rfl⟩ := Option.map_eq_some_iff.1 h
    exact marks_of_find? hf
  · exact marks_toned? h

end Emoji

end Egress.Markup
