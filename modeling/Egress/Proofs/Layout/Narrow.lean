import Egress.Layout.Panel
import Egress.Proofs.Text.Split
import Mathlib.Algebra.GroupWithZero.Nat

/-!
# Texts that fit

A text without tabs whose lines have room is wrapped into its own lines. Every character takes two
cells at most, and one of printable ASCII takes one.

## Key results

- `width_le`: two cells for each character are enough
- `width_of_narrow`: the width of a text of narrow characters is its length
- `wrap_of_room`: a text for which there is room is not wrapped
-/

namespace Egress.Layout

open Egress.Text

/-! ### Widths -/

/-- A character that takes one cell and is a cluster by itself. -/
structure IsNarrow (c : Char) : Prop where
  width : charWidth c = 1
  joiner : c ≠ joiner
  selector : c ≠ selector

/-- A printable ASCII character. -/
def IsPrintable (c : Char) : Prop := 0x20 ≤ c.toNat ∧ c.toNat < 0x7F

instance (c : Char) : Decidable (IsPrintable c) := inferInstanceAs (Decidable (_ ∧ _))

/-- Characters with different code points are different. -/
theorem ne_of_toNat {c d : Char} (h : c.toNat ≠ d.toNat) : c ≠ d := fun heq => h (heq ▸ rfl)

/-- A printable ASCII character takes one cell. -/
theorem IsPrintable.isNarrow {c : Char} (h : IsPrintable c) : IsNarrow c := by
  have hlt := h.2
  refine ⟨if_pos h, ne_of_toNat ?_, ne_of_toNat ?_⟩
  · have : joiner.toNat = 0x200D := rfl
    omega
  · have : selector.toNat = 0xFE0F := rfl
    omega

-- the tables are long texts, read by recursion on their characters
set_option maxRecDepth 100000 in
/-- The lines and corners of frames are neither of no width nor wide. -/
private theorem not_contains_frame {n : Nat} (hlo : 0x2500 ≤ n) (hhi : n ≤ 0x257F) :
    zeroWidth.contains n = false ∧ wide.contains n = false := by
  unfold zeroWidth wide
  exact ⟨CodeTable.not_contains_ofText (by decide +kernel) hlo hhi,
    CodeTable.not_contains_ofText (by decide +kernel) hlo hhi⟩

/-- The lines and corners of frames are narrow. -/
theorem isNarrow_frame {c : Char} (hlo : 0x2500 ≤ c.toNat) (hhi : c.toNat ≤ 0x257F) :
    IsNarrow c := by
  obtain ⟨hzero, hwide⟩ := not_contains_frame hlo hhi
  refine ⟨?_, ne_of_toNat ?_, ne_of_toNat ?_⟩
  · rw [charWidth, if_neg (by omega), hzero, hwide]
    rfl
  · have : joiner.toNat = 0x200D := rfl
    omega
  · have : selector.toNat = 0xFE0F := rfl
    omega

/-- The cells of clusters. -/
def cellsOf (clusters : List Cluster) : Nat := (clusters.map (·.width)).sum

/-- The width of a text is that of its clusters. -/
theorem width_eq (s : List Char) : width s = cellsOf (clusters s) := by
  have hfold : ∀ (ks : List Cluster) (n : Nat),
      ks.foldl (fun n k => n + k.width) n = n + cellsOf ks := by
    intro ks
    induction ks with
    | nil => exact fun n => rfl
    | cons k rest ih =>
      intro n
      rw [List.foldl_cons, ih, cellsOf, cellsOf, List.map_cons, List.sum_cons, Nat.add_assoc]
  rw [width, hfold, Nat.zero_add]

/-- A character takes at most two cells. -/
theorem charWidth_le (c : Char) : charWidth c ≤ 2 := by
  rw [charWidth]
  repeat' split
  all_goals omega

/-- A selector adds at most one cell. -/
theorem selectorWidth_le (last : Option Char) : selectorWidth last ≤ 1 := by
  rw [selectorWidth]
  split <;> omega

/-- The cells of the first cluster come on top of the others. -/
theorem cellsOf_cons (k : Cluster) (ks : List Cluster) :
    cellsOf (k :: ks) = k.width + cellsOf ks := rfl

/-- The clusters from one in progress take the cells of that and at most two for each character. -/
theorem cellsOf_clustersFrom_le (current : Cluster) (last : Option Char) (s : List Char) :
    cellsOf (clustersFrom current last s) ≤ current.width + 2 * s.length := by
  fun_induction clustersFrom current last s with
  | case1 => exact Nat.le_refl _
  | case2 => exact Nat.le_add_right _ _
  | case3 current last d rest ih =>
    simp only [List.length_cons] at ih ⊢
    omega
  | case4 current last rest extra _ ih =>
    have := selectorWidth_le last
    simp only [extra, List.length_cons] at ih ⊢
    omega
  | case5 current last c rest _ _ _ ih =>
    simp only [List.length_cons] at ih ⊢
    omega
  | case6 current last c rest _ _ _ ih =>
    have := charWidth_le c
    rw [cellsOf_cons]
    simp only [List.length_cons] at ih ⊢
    omega

/-- A text takes at most two cells for each of its characters. -/
theorem width_le (s : List Char) : width s ≤ 2 * s.length := by
  rw [width_eq]
  cases s with
  | nil => exact Nat.le_refl 0
  | cons c rest =>
    rw [clusters]
    -- A mark in front stands alone without a width; anything else begins with its own.
    split
    · have := cellsOf_clustersFrom_le ⟨[c], 0⟩ none rest
      simp only [List.length_cons] at this ⊢
      omega
    · have := cellsOf_clustersFrom_le ⟨[c], charWidth c⟩ (some c) rest
      have := charWidth_le c
      simp only [List.length_cons] at *
      omega

/-- A text of narrow characters takes as many cells as it has characters. -/
theorem width_of_narrow {s : List Char} (h : ∀ c ∈ s, IsNarrow c) : width s = s.length := by
  -- By induction on the text, for every cluster in progress: a narrow character always begins a new
  -- one.
  have hfrom : ∀ (s : List Char) (current : Cluster) (last : Option Char), (∀ c ∈ s, IsNarrow c) →
      cellsOf (clustersFrom current last s) = current.width + s.length := by
    intro s
    induction s with
    | nil => exact fun current last h => rfl
    | cons c rest ih =>
      intro current last h
      have hc := h c List.mem_cons_self
      have hwidth : ¬charWidth c = 0 := by
        rw [hc.width]
        exact Nat.one_ne_zero
      rw [clustersFrom.eq_def]
      simp only [if_neg hc.joiner, if_neg hc.selector, if_neg hwidth]
      rw [cellsOf_cons, ih _ _ fun d hd => h d (List.mem_cons_of_mem _ hd), hc.width,
        List.length_cons, Nat.add_comm 1]
  rw [width_eq]
  -- The first character begins the first cluster.
  cases s with
  | nil => rfl
  | cons c rest =>
    have hc := h c List.mem_cons_self
    have hone : ¬(c = joiner ∨ c = selector ∨ charWidth c = 0) := by
      rintro (hj | hs | hw)
      · exact hc.joiner hj
      · exact hc.selector hs
      · rw [hc.width] at hw
        cases hw
    rw [clusters, if_neg hone, hfrom _ _ _ fun d hd => h d (List.mem_cons_of_mem _ hd), hc.width,
      List.length_cons, Nat.add_comm]

/-! ### Wrapping -/

/-- There is room for a text: for its parts, counting `k` cells for each character. -/
structure HasRoom (n : Nat) (s : List Char) : Prop where
  room : ∃ k, 1 ≤ k ∧ k * s.length ≤ n ∧ ∀ t, t.Sublist s → width t ≤ k * t.length

/-- There is room for a text if there are two cells for each character. -/
theorem hasRoom_of_length {n : Nat} {s : List Char} (h : 2 * s.length ≤ n) : HasRoom n s :=
  ⟨2, by decide, h, fun t _ => width_le t⟩

/-- There is room for a text of narrow characters if there is a cell for each. -/
theorem hasRoom_of_narrow {n : Nat} {s : List Char} (h : ∀ c ∈ s, IsNarrow c) (hn : s.length ≤ n) :
    HasRoom n s :=
  ⟨1, Nat.le_refl 1, by omega, fun t ht => Nat.le_of_eq (by
    rw [width_of_narrow fun c hc => h c (ht.subset hc), Nat.one_mul])⟩

/-- A text with room is no wider than the room. -/
theorem HasRoom.width_le {n : Nat} {s : List Char} (h : HasRoom n s) : width s ≤ n := by
  obtain ⟨k, _, hn, hk⟩ := h.room
  exact Nat.le_trans (hk s (List.Sublist.refl s)) hn

/-- A text with room is no longer than the room. -/
theorem HasRoom.length_le {n : Nat} {s : List Char} (h : HasRoom n s) : s.length ≤ n := by
  obtain ⟨k, hk, hn, _⟩ := h.room
  exact Nat.le_trans (Nat.le_mul_of_pos_left _ hk) hn

/-- Words for which there is room stay in one line. -/
theorem Flow.foldl_word_of_room {overflow : Overflow} {n k : Nat} {ws : List (List Char)}
    (hk : ∀ t, t.Sublist ws.flatten → width t ≤ k * t.length) {f : Flow}
    (hn : f.cells + k * ws.flatten.length ≤ n) :
    (ws.foldl (Flow.word overflow n) f).done = f.done ∧
      (ws.foldl (Flow.word overflow n) f).line = f.line ++ ws.flatten := by
  -- By induction on the words; what is left of the room is for the rest.
  induction ws generalizing f with
  | nil => exact ⟨rfl, (List.append_nil _).symm⟩
  | cons w rest ih =>
    rw [List.flatten_cons, List.length_append, Nat.mul_add] at hn
    have hword := hk w (List.sublist_append_left w _)
    -- Without the blanks behind it, the word is a part of itself, so it has room.
    have hroom : width (w.reverse.dropWhile isBlank).reverse ≤ k * w.length := by
      have htrimmed : (w.reverse.dropWhile isBlank).reverse.Sublist w := by
        have := (List.dropWhile_sublist (l := w.reverse) isBlank).reverse
        rwa [List.reverse_reverse] at this
      exact Nat.le_trans (hk _ (htrimmed.trans (List.sublist_append_left w _)))
        (Nat.mul_le_mul_left k htrimmed.length_le)
    have hadd : f.word overflow n w = f.add w := by
      simp only [Flow.word]
      exact if_pos (by omega)
    have hk' : ∀ t, t.Sublist rest.flatten → width t ≤ k * t.length := fun t ht =>
      hk t (ht.trans (List.sublist_append_right w _))
    have hrest := ih (f := f.add w) hk' (by simp only [Flow.add]; omega)
    rw [List.foldl_cons, hadd]
    exact ⟨hrest.1, by rw [hrest.2, Flow.add, List.append_assoc, List.flatten_cons]⟩

/-- A line for which there is room is not broken. -/
theorem wrapLine_of_room {overflow : Overflow} {n : Nat} {s : List Char} (h : HasRoom n s) :
    wrapLine overflow n s = [s] := by
  obtain ⟨k, _, hn, hk⟩ := h.room
  rw [wrapLine]
  split
  · rfl
  · rename_i hne
    -- The words together are the line, so all of them fit.
    have hwords := flatten_words hne
    obtain ⟨hdone, hline⟩ : ((words s).foldl (Flow.word overflow n) {}).done = [] ∧
        ((words s).foldl (Flow.word overflow n) {}).line = [] ++ (words s).flatten :=
      Flow.foldl_word_of_room (k := k) (by rwa [hwords]) (by rw [hwords, Nat.zero_add]; exact hn)
    rw [Flow.lines, hdone, hline, hwords]
    rfl

/-- The end of a line that is not too long is kept. -/
theorem dropOverhang_of_length {n : Nat} {s : List Char} (h : s.length ≤ n) :
    dropOverhang n s = s := by
  rw [dropOverhang, Nat.sub_eq_zero_of_le h, Nat.min_zero, Nat.sub_zero, List.take_length]

/-- A line that is not too wide is not cut. -/
theorem cutLine_of_width {overflow : Overflow} {n : Nat} {s : List Char} (h : width s ≤ n) :
    cutLine overflow n s = s := by
  unfold cutLine
  exact if_pos h

/-- A line without tabs is kept. -/
theorem expandTabs_of_not_mem {s : List Char} (h : '\t' ∉ s) : expandTabs s = s := by
  rw [expandTabs, splitBy_of_forall (forall_ne_of_not_mem h)]
  rfl

/-- A text without tabs is wrapped into its own lines if there is room for them. -/
theorem wrap_of_room {overflow : Overflow} {n : Nat} {s : List Char} (htab : '\t' ∉ s)
    (h : ∀ line ∈ splitBy (· = '\n') s, HasRoom n line) :
    wrap overflow n s = splitBy (· = '\n') s := by
  -- Each line is wrapped into itself, and nothing is cut off.
  have hline : ∀ line ∈ splitBy (· = '\n') s, (wrapLine overflow n (expandTabs line)).map
      (fun part => cutLine overflow n (dropOverhang n part)) = [line] := by
    intro line hline
    have hroom := h line hline
    rw [expandTabs_of_not_mem fun hc => htab (mem_of_mem_splitBy hline hc).1,
      wrapLine_of_room hroom, List.map_singleton, dropOverhang_of_length hroom.length_le,
      cutLine_of_width hroom.width_le]
  rw [wrap, List.flatMap_def, List.map_congr_left hline, ← List.flatMap_def]
  exact List.flatMap_singleton' _

/-- A text without tabs is wrapped into its own lines on a page with two cells for each of its
characters. -/
theorem wrap_of_length (overflow : Overflow) {n : Nat} {s : List Char} (htab : '\t' ∉ s)
    (h : 2 * s.length ≤ n) : wrap overflow n s = splitBy (· = '\n') s := by
  refine wrap_of_room htab fun line hline => hasRoom_of_length ?_
  have hsub : line.Sublist s := by
    have := List.sublist_flatten_of_mem hline
    rw [flatten_splitBy] at this
    exact this.trans List.filter_sublist
  have := hsub.length_le
  omega

/-! ### Printable texts -/

/-- Whether a text is printable ASCII. -/
def IsPrintableText (s : List Char) : Prop := ∀ c ∈ s, IsPrintable c

instance (s : List Char) : Decidable (IsPrintableText s) :=
  decidable_of_iff (s.all fun c => decide (IsPrintable c)) (by simp [IsPrintableText])

/-- The characters of a printable text take one cell each. -/
theorem isNarrow_of_printable {s : List Char} (h : IsPrintableText s) : ∀ c ∈ s, IsNarrow c :=
  fun c hc => (h c hc).isNarrow

/-- A printable text is as wide as it is long. -/
theorem width_of_printable {s : List Char} (h : IsPrintableText s) : width s = s.length :=
  width_of_narrow (isNarrow_of_printable h)

/-- A printable text is one line. -/
theorem textWidth_of_printable {s : List Char} (h : IsPrintableText s) :
    textWidth s = s.length := by
  -- The end of a line is no printable character.
  have hno : ∀ c ∈ s, isLineEnd c = false := by
    intro c hc
    have := h c hc
    simp only [IsPrintable] at this
    simp only [isLineEnd, Bool.or_eq_false_iff, Bool.and_eq_false_iff, decide_eq_false_iff_not,
      beq_eq_false_iff_ne]
    omega
  rw [textWidth, splitBy_of_forall hno, List.map_singleton, List.foldl_cons, List.foldl_nil,
    width_of_printable h, Nat.zero_max]

/-- A printable text that is not too long is not wrapped. -/
theorem wrap_of_printable {s : List Char} (h : IsPrintableText s) {overflow : Overflow} {n : Nat}
    (hn : s.length ≤ n) : wrap overflow n s = [s] := by
  -- Neither tabs nor line breaks are printable.
  have hne : ∀ c ∈ s, c ≠ '\t' ∧ c ≠ '\n' := by
    intro c hc
    have := (h c hc).1
    have htab : '\t'.toNat = 9 := rfl
    have hnewline : '\n'.toNat = 10 := rfl
    exact ⟨ne_of_toNat (by omega), ne_of_toNat (by omega)⟩
  have hsplit : splitBy (· = '\n') s = [s] :=
    splitBy_of_forall fun c hc => decide_eq_false (hne c hc).2
  rw [wrap_of_room (fun hc => (hne _ hc).1 rfl), hsplit]
  rw [hsplit]
  intro line hline
  rw [List.mem_singleton.1 hline]
  exact hasRoom_of_narrow (isNarrow_of_printable h) hn

end Egress.Layout
