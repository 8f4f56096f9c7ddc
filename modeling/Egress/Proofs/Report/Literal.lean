import Egress.Proofs.Layout.Drawing
import Egress.Proofs.Layout.Marks
import Egress.Proofs.Markup.Literal
import Egress.Proofs.Report.Sheet

/-!
# Sheets that are drawn as they are written

A sheet of printable texts is drawn with each of its rows character by character in a line, on a
page with room for them, if none of the texts that are read as markup has anything to read in it.
Otherwise the drawing has less marks than the texts.

## Key results

- `ShowsRows`: the lines that show rows
- `Sheet.showsRows_of_isLiteral`: sheets with nothing to read
- `Sheet.isLiteral_of_lines`: the marks in what is drawn
-/

namespace Egress.Report

open Egress.Markup Egress.Text
open Layout (Panel Table Row IsPrintableText rowLine longest le_longest)

/-! ### Cells -/

/-- The text of a cell, as it is written. -/
def Cell.source : Cell → String
  | .literal s => s
  | .markup s => s

/-- A cell whose text is shown as it is written. -/
def Cell.IsLiteral : Cell → Prop
  | .literal s => ∀ c ∈ s.toList, isControl c = false
  | .markup s => Markup.IsLiteral s.toList

/-- There are no styles to look up in a literal cell. -/
theorem Cell.lookUpStyles_of_isLiteral {c : Cell} (h : c.IsLiteral) :
    c.lookUpStyles = .ok () := by
  cases c with
  | literal s => rfl
  | markup s => exact Markup.lookUpStyles_of_isLiteral h

section

variable [Evaluation]

/-- A literal cell shows its text. -/
theorem Cell.shown_of_isLiteral {c : Cell} (h : c.IsLiteral) : c.shown = .ok c.source.toList := by
  cases c with
  | literal s =>
    rw [Cell.shown, dropControls, List.filter_eq_self.2 fun c hc => by rw [h c hc]; rfl]
    rfl
  | markup s => exact plain_of_isLiteral h

/-- What a cell shows has no more marks than its text, and as many only if it is the text. -/
theorem Cell.marks_shown {c : Cell} {t : List Char} (h : c.shown = .ok t) :
    marks t ≤ marks c.source.toList ∧ (marks c.source.toList ≤ marks t → c.IsLiteral) := by
  cases c with
  | literal s =>
    cases h
    have hcontrols := marks_dropControls s.toList
    -- A control character is a mark, so dropping one would leave fewer.
    refine ⟨hcontrols.1, fun hall d hd => ?_⟩
    rw [Bool.eq_false_iff]
    intro hd'
    have hless : marks (dropControls s.toList) < marks s.toList := hcontrols.2 ⟨d, hd, hd'⟩
    exact absurd hall (Nat.not_le.2 hless)
  | markup s => exact ⟨marks_plain h, isLiteral_of_marks h⟩

end

/-! ### Rows -/

/-- A pair of texts as a row. -/
def rowOf (r : String × String) : Row := ⟨r.1.toList, r.2.toList⟩

/-- The marks in rows of texts. -/
def rowMarks (rows : List (String × String)) : Nat :=
  (rows.map fun r => marks r.1.toList + marks r.2.toList).sum

/-- Lines that show rows character by character: one line for each row, below a frame and a heading
and above the end of the frame. -/
def ShowsRows (rows : List (String × String)) (lines : List (List Char)) : Prop :=
  ∃ a b above below, above.length = 4 ∧ below.length = 2 ∧
    lines = above ++ (rows.map fun r => rowLine a b (rowOf r)) ++ below

/-- The marks of rows that are shown are in the lines. -/
theorem ShowsRows.marks_le {rows : List (String × String)} {lines : List (List Char)}
    (h : ShowsRows rows lines) : rowMarks rows ≤ lineMarks lines := by
  obtain ⟨a, b, above, below, _, _, rfl⟩ := h
  -- Padding and frame have no marks, so a row line has those of its two texts.
  have hpad : ∀ n s, marks (Layout.padTo n s) = marks s := fun n s => by
    rw [Layout.padTo, marks_append, marks_replicate rfl, Nat.add_zero]
  have hrow : ∀ r, marks (rowLine a b (rowOf r)) = marks r.1.toList + marks r.2.toList := by
    intro r
    have hopen : marks ['│', ' ', '│', ' '] = 0 := by decide
    have hmiddle : marks [' ', '│', ' '] = 0 := by decide
    have hclose : marks [' ', '│', ' ', '│'] = 0 := by decide
    rw [rowLine, marks_append, marks_append, marks_append, marks_append, hpad, hpad, hopen, hmiddle,
      hclose, Nat.zero_add, Nat.add_zero, Nat.add_zero, rowOf]
  -- By induction on the rows.
  have hrows : lineMarks (rows.map fun r => rowLine a b (rowOf r)) = rowMarks rows := by
    induction rows with
    | nil => rfl
    | cons r rest ih => rw [List.map_cons, lineMarks_cons, hrow, ih]; rfl
  rw [lineMarks_append, lineMarks_append, hrows]
  omega

/-- Rows of printable texts. -/
def ArePrintable (rows : List (String × String)) : Prop :=
  ∀ r ∈ rows, IsPrintableText r.1.toList ∧ IsPrintableText r.2.toList

/-- The width of a page from which on a panel has room for rows, with their heading: that of the
longest texts on both sides, and of the frames. -/
def roomFor (rows : List (String × String)) : Nat :=
  longest (rows.map (·.1.toList)) + longest (rows.map (·.2.toList)) + 11

/-! ### Sheets -/

namespace Sheet

variable {s : Sheet} {width : Nat} {lines : List (List Char)}

/-- The rows of a sheet, as they are written. -/
def texts (s : Sheet) : List (String × String) := s.rows.map fun r => (r.1.source, r.2.source)

/-- The panel of a sheet with rows. -/
def panel (s : Sheet) (rows : List Row) : Panel := ⟨s.title.toList, ⟨rowOf s.head, rows⟩⟩

/-- A sheet of which all cells are shown as they are written. -/
def IsLiteral (s : Sheet) : Prop := ∀ r ∈ s.rows, r.1.IsLiteral ∧ r.2.IsLiteral

variable [Evaluation]

/-- A sheet of literal cells is drawn as it is written. -/
theorem lines_of_isLiteral (hwidth : leastWidth ≤ width) (h : s.IsLiteral) :
    -- The cells of each column show their texts, so the rows are the texts side by side.
    s.lines width = .ok ((s.panel (s.texts.map rowOf)).lines width) := by
  have hlefts := mapM_eq_ok_map (g := fun r : Cell × Cell => r.1.source.toList) fun r hr =>
    Cell.shown_of_isLiteral (h r hr).1
  have hrights := mapM_eq_ok_map (g := fun r : Cell × Cell => r.2.source.toList) fun r hr =>
    Cell.shown_of_isLiteral (h r hr).2
  have hrows : List.zipWith Row.mk (s.rows.map fun r => r.1.source.toList)
      (s.rows.map fun r => r.2.source.toList) = s.texts.map rowOf := by
    rw [texts, List.zipWith_map, List.zipWith_self, List.map_map]
    rfl
  have hshown : s.shown width = .ok (s.texts.map rowOf) := by
    rw [shown_eq hwidth, hlefts, hrights, ← hrows]
    rfl
  have hstyles : s.lookUpStyles width = .ok () := (lookUpStyles_eq_ok hwidth).2 fun r hr =>
    ⟨Cell.lookUpStyles_of_isLiteral (h r hr).1, Cell.lookUpStyles_of_isLiteral (h r hr).2⟩
  exact lines_eq_ok.2 ⟨_, hshown, hstyles, rfl⟩

/-- What rows of cells show has no more marks than the texts of the cells, and as many only if all
are literal. -/
theorem marks_shown {rows : List (Cell × Cell)} {lefts rights : List (List Char)}
    (hlefts : rows.mapM (fun r => r.1.shown) = .ok lefts)
    (hrights : rows.mapM (fun r => r.2.shown) = .ok rights) :
    ((List.zipWith Row.mk lefts rights).map Row.marked).sum ≤
        rowMarks (rows.map fun r => (r.1.source, r.2.source)) ∧
      (rowMarks (rows.map fun r => (r.1.source, r.2.source)) ≤
          ((List.zipWith Row.mk lefts rights).map Row.marked).sum →
        ∀ r ∈ rows, r.1.IsLiteral ∧ r.2.IsLiteral) := by
  -- By induction on the rows; each cell has no more marks than its text, so if all are there, none
  -- has less.
  induction rows generalizing lefts rights with
  | nil =>
    cases hlefts
    exact ⟨Nat.le_refl 0, fun _ => by simp⟩
  | cons row rest ih =>
    rw [List.mapM_cons] at hlefts hrights
    obtain ⟨left, hleft, h⟩ := bind_eq_ok.1 hlefts
    obtain ⟨lefts', hlefts', h⟩ := bind_eq_ok.1 h
    cases h
    obtain ⟨right, hright, h⟩ := bind_eq_ok.1 hrights
    obtain ⟨rights', hrights', h⟩ := bind_eq_ok.1 h
    cases h
    have hl := Cell.marks_shown hleft
    have hr := Cell.marks_shown hright
    have ih := ih hlefts' hrights'
    simp only [rowMarks, List.zipWith_cons_cons, List.map_cons, List.sum_cons, Row.marked] at ih ⊢
    exact ⟨by omega, fun hall => List.forall_mem_cons.2 ⟨⟨hl.2 (by omega), hr.2 (by omega)⟩,
      ih.2 (by omega)⟩⟩

/-- What is drawn has no more marks than the texts, and as many only if all cells are literal. -/
theorem isLiteral_of_lines (hwidth : leastWidth ≤ width)
    (hplain : marks s.title.toList + marks s.head.1.toList + marks s.head.2.toList = 0)
    (h : s.lines width = .ok lines) :
    lineMarks lines ≤ rowMarks s.texts ∧ (rowMarks s.texts ≤ lineMarks lines → s.IsLiteral) := by
  obtain ⟨rows, hrows, _, rfl⟩ := lines_eq_ok.1 h
  rw [shown_eq hwidth] at hrows
  obtain ⟨lefts, hlefts, hrows⟩ := bind_eq_ok.1 hrows
  obtain ⟨rights, hrights, hrows⟩ := bind_eq_ok.1 hrows
  cases hrows
  have hshown := marks_shown hlefts hrights
  -- Title and heads have no marks by the hypothesis.
  have hpanel : ∀ rows, marks (s.panel rows).title + (s.panel rows).table.marked =
      (rows.map Row.marked).sum := by
    intro rows
    simp only [panel, rowOf, Table.marked, List.map_cons, List.sum_cons, Row.marked]
    omega
  have hdrawn := Layout.lineMarks_lines (s.panel (List.zipWith Row.mk lefts rights)) width
  rw [hpanel] at hdrawn
  exact ⟨Nat.le_trans hdrawn hshown.1, fun hall => hshown.2 (Nat.le_trans hall hdrawn)⟩

/-- A sheet of printable literal texts is drawn with its rows on a page with room for them. -/
theorem showsRows_of_isLiteral (h : s.IsLiteral) (hprintable : ArePrintable (s.head :: s.texts))
    (htitle : IsPrintableText s.title.toList)
    (hhead : 0 < s.head.1.toList.length ∧ 0 < s.head.2.toList.length ∧
      s.title.toList.length ≤ s.head.1.toList.length + s.head.2.toList.length + 5)
    (hroom : roomFor (s.head :: s.texts) ≤ width) :
    ∃ lines, s.lines width = .ok lines ∧ ShowsRows s.texts lines := by
  have hwidth : leastWidth ≤ width := by
    rw [roomFor] at hroom
    rw [leastWidth]
    omega
  -- The columns, head and rows together.
  have hlefts : (s.panel (s.texts.map rowOf)).table.lefts =
      (s.head :: s.texts).map (·.1.toList) := by
    simp [panel, Table.lefts, rowOf]
  have hrights : (s.panel (s.texts.map rowOf)).table.rights =
      (s.head :: s.texts).map (·.2.toList) := by
    simp [panel, Table.rights, rowOf]
  have hleft : s.head.1.toList.length ≤ (s.panel (s.texts.map rowOf)).table.leftLength :=
    le_longest (hlefts ▸ List.mem_map_of_mem List.mem_cons_self)
  have hright : s.head.2.toList.length ≤ (s.panel (s.texts.map rowOf)).table.rightLength :=
    le_longest (hrights ▸ List.mem_map_of_mem List.mem_cons_self)
  have hfits : (s.panel (s.texts.map rowOf)).Fits width := by
    -- The texts are printable, there is room for the title in the frame, and for the rows on the
    -- page.
    refine ⟨⟨?_, ?_, by omega, by omega⟩, htitle, ?_, ?_⟩
    · rw [hlefts, List.forall_mem_map]
      exact fun r hr => (hprintable r hr).1
    · rw [hrights, List.forall_mem_map]
      exact fun r hr => (hprintable r hr).2
    · have := hhead.2.2
      simp only [panel] at *
      omega
    · rw [Table.leftLength, Table.rightLength, hlefts, hrights]
      exact hroom
  obtain ⟨above, below, habove, hbelow, hlines⟩ := Panel.lines_of_fits hfits
  have hrows : ∀ a b, (s.panel (s.texts.map rowOf)).table.rows.map (rowLine a b) =
      s.texts.map fun r => rowLine a b (rowOf r) := fun a b => List.map_map
  rw [hrows] at hlines
  exact ⟨_, lines_of_isLiteral hwidth h, _, _, above, below, habove, hbelow, hlines⟩

end Sheet

end Egress.Report
