import Egress.Proofs.Layout.Narrow

/-!
# Drawings of printable texts

In a panel with room for the longest texts of both columns, every row of printable texts is a line
with these texts in it, padded to the widths of the columns.

## Key results

- `rowLine`: the line of a row
- `Panel.lines_of_fits`: the lines of a panel with room for its texts
-/

namespace Egress.Layout

/-! ### Columns -/

/-- The length of the longest text. -/
def longest (cells : List (List Char)) : Nat := (cells.map List.length).foldl max 0

/-- No cell is longer than the longest. -/
theorem le_longest {cells : List (List Char)} {cell : List Char} (h : cell ∈ cells) :
    cell.length ≤ longest cells := by
  -- The running maximum is above the start and above all that was gone through.
  have hfold : ∀ (l : List Nat) (m : Nat), m ≤ l.foldl max m ∧ ∀ n ∈ l, n ≤ l.foldl max m := by
    intro l
    induction l with
    | nil => exact fun m => ⟨Nat.le_refl m, by simp⟩
    | cons n rest ih =>
      intro m
      have ⟨hstart, hrest⟩ := ih (max m n)
      rw [List.foldl_cons]
      refine ⟨by omega, fun i hi => ?_⟩
      rcases List.mem_cons.1 hi with rfl | hi
      · omega
      · exact hrest i hi
  exact (hfold _ 0).2 _ (List.mem_map_of_mem h)

/-- A column of printable texts has room for the longest one. -/
theorem columnWidth_of_printable {cells : List (List Char)}
    (h : ∀ cell ∈ cells, IsPrintableText cell) {n : Nat} (hsome : 0 < longest cells)
    (hn : longest cells + cellPadding ≤ n) :
    columnWidth n cells = longest cells + cellPadding := by
  have hwidths : cells.map textWidth = cells.map List.length :=
    List.map_congr_left fun cell hcell => textWidth_of_printable (h cell hcell)
  rw [columnWidth, if_neg (by omega), hwidths]
  exact Nat.min_eq_right hn

/-- A text with blanks up to a length. -/
def padTo (n : Nat) (s : List Char) : List Char := s ++ List.replicate (n - s.length) ' '

/-- A text with room is padded to the width. -/
theorem length_padTo {n : Nat} {s : List Char} (h : s.length ≤ n) : (padTo n s).length = n := by
  rw [padTo, List.length_append, List.length_replicate]
  omega

/-- Printable texts are padded by characters. -/
theorem pad_of_printable {s : List Char} (h : IsPrintableText s) (n : Nat) :
    pad n s = padTo n s := by
  rw [pad, width_of_printable h, padTo]

/-! ### Tables -/

namespace Table

variable {t : Table} {n : Nat}

/-- The length of the longest text on the left. -/
def leftLength (t : Table) : Nat := longest t.lefts

/-- The length of the longest text on the right. -/
def rightLength (t : Table) : Nat := longest t.rights

/-- A table of printable texts, with some text in each column. -/
structure IsPlain (t : Table) : Prop where
  lefts : ∀ cell ∈ t.lefts, IsPrintableText cell
  rights : ∀ cell ∈ t.rights, IsPrintableText cell
  left : 0 < t.leftLength
  right : 0 < t.rightLength

/-- The columns are as wide as their longest texts if there is room. -/
theorem widths_of_isPlain (h : t.IsPlain) (hn : t.leftLength + t.rightLength + 4 ≤ n) :
    t.widths n = (t.leftLength + 2, t.rightLength + 2) := by
  have hleft : columnWidth n t.lefts = t.leftLength + 2 :=
    columnWidth_of_printable h.lefts h.left (show t.leftLength + 2 ≤ n by omega)
  have hright : columnWidth n t.rights = t.rightLength + 2 :=
    columnWidth_of_printable h.rights h.right (show t.rightLength + 2 ≤ n by omega)
  simp only [widths, hleft, hright]
  rw [Nat.max_eq_right (by omega), Nat.max_eq_right (by omega), if_pos (by omega)]

/-- A table is as wide as its columns and its frame if there is room. -/
theorem extent_of_isPlain (h : t.IsPlain) (hn : t.leftLength + t.rightLength + 7 ≤ n) :
    t.extent n = t.leftLength + t.rightLength + 7 := by
  have hwidths := widths_of_isPlain h (n := n - frameWidth) (by simp only [frameWidth]; omega)
  have hleft : columnWidth (t.leftLength + 2 + (t.rightLength + 2)) t.lefts = t.leftLength + 2 :=
    columnWidth_of_printable h.lefts h.left (show t.leftLength + 2 ≤ _ by omega)
  have hright : columnWidth (t.leftLength + 2 + (t.rightLength + 2)) t.rights = t.rightLength + 2 :=
    columnWidth_of_printable h.rights h.right (show t.rightLength + 2 ≤ _ by omega)
  rw [extent, hwidths]
  simp only [hleft, hright, frameWidth]
  omega

/-- A printable text that is not too long is the only line of its cell. -/
theorem cellLines_of_printable {s : List Char} (h : IsPrintableText s) (hs : s.length ≤ n)
    (hn : 0 < n) : cellLines (n + 2) s = [' ' :: padTo n s ++ [' ']] := by
  have hpadding : n + 2 - cellPadding = n := Nat.add_sub_cancel n 2
  rw [cellLines, if_neg (by simp only [cellPadding]; omega), hpadding, wrap_of_printable h hs,
    List.map_singleton, pad_of_printable h]

/-- The line of a row, in columns for so many characters. -/
def line (bar : Char) (a b : Nat) (r : Row) : List Char :=
  [bar, ' '] ++ padTo a r.left ++ [' ', bar, ' '] ++ padTo b r.right ++ [' ', bar]

/-- A row of printable texts that are not too long is one line. -/
theorem rowLines_of_printable {a b : Nat} {r : Row} (hleft : IsPrintableText r.left)
    (hright : IsPrintableText r.right) (ha : r.left.length ≤ a) (hb : r.right.length ≤ b)
    (ha' : 0 < a) (hb' : 0 < b) (bar : Char) (atBottom : Bool) :
    rowLines bar atBottom (a + 2) (b + 2) r = [line bar a b r] := by
  simp only [rowLines, cellLines_of_printable hleft ha ha', cellLines_of_printable hright hb hb']
  cases atBottom <;> simp [line]

/-- A line of a table has its two texts and seven cells of frame. -/
theorem line_length {a b : Nat} {r : Row} (ha : r.left.length ≤ a) (hb : r.right.length ≤ b)
    (bar : Char) : (line bar a b r).length = a + b + 7 := by
  simp only [line, List.length_append, length_padTo ha, length_padTo hb, List.length_cons,
    List.length_nil]
  omega

/-- The line of a row of printable texts consists of narrow characters. -/
theorem isNarrow_line {a b : Nat} {r : Row} (hleft : IsPrintableText r.left)
    (hright : IsPrintableText r.right) {bar : Char} (hbar : IsNarrow bar) :
    ∀ c ∈ line bar a b r, IsNarrow c := by
  have hblank : IsNarrow ' ' := IsPrintable.isNarrow (by decide)
  -- A padded text ends in blanks.
  have hpadTo : ∀ {n s}, IsPrintableText s → ∀ c ∈ padTo n s, IsNarrow c := by
    intro n s hs c hc
    rcases List.mem_append.1 hc with hc | hc
    · exact (hs c hc).isNarrow
    · exact List.eq_of_mem_replicate hc ▸ hblank
  simp only [line, List.forall_mem_append, List.forall_mem_cons, List.not_mem_nil, false_imp_iff,
    implies_true, and_true]
  exact ⟨⟨⟨⟨⟨hbar, hblank⟩, hpadTo hleft⟩, hblank, hbar, hblank⟩, hpadTo hright⟩, hblank, hbar⟩

/-- The lines of a table with room for its texts: three before its rows, and one behind them. -/
theorem lines_of_isPlain (h : t.IsPlain) (hn : t.leftLength + t.rightLength + 7 ≤ n) :
    ∃ above below, above.length = 3 ∧ below.length = 1 ∧
      t.lines n = above ++ t.rows.map (line '│' t.leftLength t.rightLength) ++ below := by
  have hwidths := widths_of_isPlain h (n := n - frameWidth) (by simp only [frameWidth]; omega)
  -- Every row has room, so each is a single line.
  have hrow : ∀ r ∈ t.head :: t.rows, ∀ bar atBottom,
      rowLines bar atBottom (t.leftLength + 2) (t.rightLength + 2) r =
        [line bar t.leftLength t.rightLength r] := by
    intro r hr bar atBottom
    have hleft : r.left ∈ t.lefts := List.mem_map_of_mem hr
    have hright : r.right ∈ t.rights := List.mem_map_of_mem hr
    exact rowLines_of_printable (h.lefts _ hleft) (h.rights _ hright) (le_longest hleft)
      (le_longest hright) h.left h.right bar atBottom
  have hrows : t.rows.flatMap (rowLines '│' false (t.leftLength + 2) (t.rightLength + 2)) =
      t.rows.map (line '│' t.leftLength t.rightLength) := by
    rw [List.flatMap_def,
      List.map_congr_left fun r hr => hrow r (List.mem_cons_of_mem _ hr) '│' false,
      ← List.flatMap_def, ← List.map_eq_flatMap]
  simp only [lines, hwidths, hrow _ List.mem_cons_self, hrows]
  exact ⟨_, _, rfl, rfl, rfl⟩

end Table

/-! ### Panels -/

/-- The line of a row in a panel, in columns for so many characters. -/
def rowLine (a b : Nat) (r : Row) : List Char :=
  ['│', ' ', '│', ' '] ++ padTo a r.left ++ [' ', '│', ' '] ++ padTo b r.right ++
    [' ', '│', ' ', '│']

namespace Panel

variable {p : Panel} {n : Nat}

/-- A panel with room for its texts on a page: for its title, and for the longest texts of both
columns in the frames of the table and of the panel. -/
structure Fits (p : Panel) (n : Nat) : Prop where
  plain : p.table.IsPlain
  title : IsPrintableText p.title
  titleRoom : p.title.length ≤ p.table.leftLength + p.table.rightLength + 5
  room : p.table.leftLength + p.table.rightLength + 11 ≤ n

/-- A panel with room for its texts is as wide as its table. -/
theorem inside_of_fits (h : p.Fits n) :
    p.inside n = p.table.leftLength + p.table.rightLength + 9 := by
  have htitle := h.titleRoom
  have hroom := h.room
  have hsides : sides = 2 := rfl
  have hextent := Table.extent_of_isPlain h.plain (n := n - sides) (by omega)
  rw [inside, hextent, width_of_printable h.title, if_neg (by omega)]
  omega

/-- A line of narrow characters of the right length fits into a panel and onto its page. -/
theorem crop_line {m : Nat} {line : List Char} (hline : ∀ c ∈ line, IsNarrow c)
    (hlength : line.length = m) (hn : m + 4 ≤ n) :
    crop n (['│', ' '] ++ fit m line ++ [' ', '│']) = ['│', ' '] ++ line ++ [' ', '│'] := by
  have hbar : IsNarrow '│' := isNarrow_frame (by decide) (by decide)
  have hblank : IsNarrow ' ' := IsPrintable.isNarrow (by decide)
  have hfit : fit m line = line := by
    rw [fit, width_of_narrow hline, if_pos (Nat.le_of_eq hlength), pad, width_of_narrow hline,
      hlength, Nat.sub_self, List.replicate_zero, List.append_nil]
  -- The frame is narrow as well, so the line is as wide as it is long.
  have hframed : ∀ c ∈ ['│', ' '] ++ line ++ [' ', '│'], IsNarrow c := by
    simp only [List.forall_mem_append, List.forall_mem_cons, List.not_mem_nil, false_imp_iff,
      implies_true, and_true]
    exact ⟨⟨⟨hbar, hblank⟩, hline⟩, hblank, hbar⟩
  rw [hfit, crop, width_of_narrow hframed, if_pos]
  simp only [List.length_append, List.length_cons, List.length_nil, hlength]
  omega

/-- The lines of a panel with room for its texts: four before its rows, and two behind them. -/
theorem lines_of_fits (h : p.Fits n) :
    ∃ above below, above.length = 4 ∧ below.length = 2 ∧ p.lines n =
      above ++ p.table.rows.map (rowLine p.table.leftLength p.table.rightLength) ++ below := by
  have hroom := h.room
  have hsides : sides = 2 := rfl
  have hinside := inside_of_fits h
  -- A row of the table is a line of the panel, with nothing cropped.
  have hrow : ∀ r ∈ p.table.rows, crop n (['│', ' '] ++ fit (p.inside n - sides)
      (Table.line '│' p.table.leftLength p.table.rightLength r) ++ [' ', '│']) =
      rowLine p.table.leftLength p.table.rightLength r := by
    intro r hr
    have hleft : r.left ∈ p.table.lefts := List.mem_map_of_mem (List.mem_cons_of_mem _ hr)
    have hright : r.right ∈ p.table.rights := List.mem_map_of_mem (List.mem_cons_of_mem _ hr)
    have hnarrow := Table.isNarrow_line (a := p.table.leftLength) (b := p.table.rightLength)
      (h.plain.lefts _ hleft) (h.plain.rights _ hright)
      (isNarrow_frame (c := '│') (by decide) (by decide))
    have hlength : (Table.line '│' p.table.leftLength p.table.rightLength r).length =
        p.table.leftLength + p.table.rightLength + 7 :=
      Table.line_length (le_longest hleft) (le_longest hright) '│'
    rw [crop_line hnarrow (by omega) (by omega)]
    simp [rowLine, Table.line]
  obtain ⟨above, below, habove, hbelow, hlines⟩ := Table.lines_of_isPlain h.plain
    (n := p.inside n - sides) (by omega)
  have hbody : p.body (p.inside n) = (p.table.lines (p.inside n - sides)).map fun line =>
      ['│', ' '] ++ fit (p.inside n - sides) line ++ [' ', '│'] := if_neg (by omega)
  have hpanel : p.lines n = ([p.top (p.inside n)] ++ p.body (p.inside n) ++
      ['╰' :: List.replicate (p.inside n) '─' ++ ['╯']]).map (crop n) := if_neg (by omega)
  -- Three lines of the table and the top edge before the rows, a line of the table and the bottom
  -- edge behind.
  rw [hpanel, hbody, hlines]
  simp only [List.map_append, List.map_map, Function.comp_def, List.map_congr_left hrow]
  have hassoc : ∀ a b c d e : List (List Char),
      a ++ (b ++ c ++ d) ++ e = a ++ b ++ c ++ (d ++ e) := by simp
  rw [hassoc]
  refine ⟨_, _, ?_, ?_, rfl⟩
  · simp [habove]
  · simp [hbelow]

end Panel

end Egress.Layout
