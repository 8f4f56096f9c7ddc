import Egress.Layout.Panel
import Egress.Proofs.Markup.Marks
import Egress.Proofs.Text.Split
import Mathlib.Algebra.GroupWithZero.Nat

/-!
# Marks in drawings

Wrapping a text, cutting it, and drawing it into tables and panels leaves characters out and puts
blanks, ellipses and the lines of frames in. None of these is a mark, so a drawing has no more marks
than the texts in it. A text that has a tab loses it.

## Key results

- `marks_wrap`: wrapped texts
- `marks_lines`: panels
-/

namespace Egress.Layout

open Egress.Markup Egress.Text

/-! ### Cutting -/

/-- Clusters that are taken as far as there are cells bring no more marks than all of them. -/
theorem marks_takeCells (n : Nat) (clusters : List Cluster) :
    marks (takeCells n clusters) ≤ lineMarks (clusters.map (·.text)) := by
  induction clusters generalizing n with
  | nil => exact Nat.le_refl 0
  | cons k rest ih =>
    rw [takeCells, List.map_cons, lineMarks_cons]
    -- No cells are left, the cluster has room, or blanks fill what it would overlap.
    split
    · exact Nat.zero_le _
    · split
      · have := ih (n - k.width)
        rw [marks_append]
        omega
      · rw [marks_replicate rfl]
        exact Nat.zero_le _

/-- The clusters of a text have the marks of the text. -/
theorem lineMarks_clusters (s : List Char) : lineMarks ((clusters s).map (·.text)) = marks s := by
  rw [lineMarks, flatten_clusters]

/-- A cropped text has no more marks. -/
theorem marks_crop (n : Nat) (s : List Char) : marks (crop n s) ≤ marks s := by
  rw [crop]
  split
  · exact Nat.le_refl _
  · exact Nat.le_trans (marks_takeCells n _) (Nat.le_of_eq (lineMarks_clusters s))

/-- Padding adds no marks. -/
theorem marks_pad (n : Nat) (s : List Char) : marks (pad n s) = marks s := by
  rw [pad, marks_append, marks_replicate rfl, Nat.add_zero]

/-- A text that is made to fit has no more marks. -/
theorem marks_fit (n : Nat) (s : List Char) : marks (fit n s) ≤ marks s := by
  rw [fit]
  split
  · exact Nat.le_of_eq (marks_pad n s)
  · exact Nat.le_trans (marks_takeCells n _) (Nat.le_of_eq (lineMarks_clusters s))

/-- A line that is cut has no more marks, whatever shows the cut. -/
theorem marks_cutLine (overflow : Overflow) (n : Nat) (s : List Char) :
    marks (cutLine overflow n s) ≤ marks s := by
  unfold cutLine
  split
  · exact Nat.le_refl _
  · cases overflow with
    | fold => exact marks_crop n s
    | ellipsis =>
      have hdots : marks ['…'] = 0 := by decide +kernel
      simp only [marks_append, hdots]
      exact marks_fit _ s

/-- Dropping blanks at the end adds no marks. -/
theorem marks_dropOverhang (n : Nat) (s : List Char) : marks (dropOverhang n s) ≤ marks s :=
  marks_le_of_sublist (List.take_sublist _ s)

/-- Chopped pieces have no more marks than what was collected and the clusters to come. -/
theorem lineMarks_chopFrom (n : Nat) (piece : List Char) (cells : Nat) (clusters : List Cluster) :
    lineMarks (chopFrom n piece cells clusters) ≤
      marks piece + lineMarks (clusters.map (·.text)) := by
  induction clusters generalizing piece cells with
  | nil =>
    rw [chopFrom]
    split
    · exact Nat.zero_le _
    · rw [lineMarks_cons]
      exact Nat.le_refl _
  | cons k rest ih =>
    rw [chopFrom, List.map_cons, lineMarks_cons]
    -- Either the cluster begins a new piece, or it joins the one in progress.
    split
    · have := ih k.text k.width
      rw [lineMarks_cons]
      omega
    · have := ih (piece ++ k.text) (cells + k.width)
      rw [marks_append] at this
      omega

/-- A chopped text has no more marks. -/
theorem lineMarks_chop (n : Nat) (s : List Char) : lineMarks (chop n s) ≤ marks s := by
  have := lineMarks_chopFrom n [] 0 (clusters s)
  rw [lineMarks_clusters, marks_nil] at this
  rw [chop]
  omega

/-! ### Wrapping -/

/-- The end of a line is no mark. -/
theorem lineMarks_splitBy_newline (s : List Char) : lineMarks (splitBy (· = '\n') s) = marks s := by
  have hno : ∀ c, (isMark c && !decide (c = '\n')) = isMark c := by
    intro c
    by_cases hc : c = '\n'
    · rw [hc]
      decide
    · rw [decide_eq_false hc, Bool.not_false, Bool.and_true]
  rw [lineMarks, flatten_splitBy, marks, List.countP_filter]
  exact congrArg (fun p => List.countP p s) (funext hno)

/-- Expanded tabs are blanks. -/
theorem marks_expandFrom (column : Nat) (pieces : List (List Char)) :
    marks (expandFrom column pieces) = lineMarks pieces := by
  fun_induction expandFrom column pieces with
  | case1 => rfl
  | case2 column piece =>
    rw [lineMarks_cons, lineMarks_nil, Nat.add_zero]
  | case3 column piece rest hne used stop ih =>
    rw [marks_append, marks_append, marks_replicate rfl, ih, lineMarks_cons, Nat.add_zero]

/-- A tab is replaced by blanks. -/
theorem marks_expandTabs (s : List Char) : marks (expandTabs s) ≤ marks s ∧
    ('\t' ∈ s → marks (expandTabs s) < marks s) := by
  have hfilter := marks_filter (fun c => !decide (c = '\t')) s
  rw [expandTabs, marks_expandFrom, lineMarks, flatten_splitBy]
  exact ⟨hfilter.1, fun h => hfilter.2 ⟨'\t', h, rfl, rfl⟩⟩

namespace Flow

/-- The marks in the lines of a flow. -/
def marked (f : Flow) : Nat := lineMarks f.done + marks f.line

/-- A new line has no marks. -/
theorem marked_newLine (f : Flow) : f.newLine.marked = f.marked := by
  rw [newLine]
  split
  · rfl
  · rw [marked, marked, lineMarks_append, lineMarks_cons, lineMarks_nil, marks_nil]
    omega

/-- What is added to a flow brings its marks. -/
theorem marked_add (f : Flow) (s : List Char) : (f.add s).marked = f.marked + marks s := by
  rw [marked, marked, add, marks_append, Nat.add_assoc]

/-- A word brings no more marks into a flow than it has. -/
theorem marked_word (overflow : Overflow) (n : Nat) (f : Flow) (w : List Char) :
    (f.word overflow n w).marked ≤ f.marked + marks w := by
  -- Pieces are added one after the other, each on a line of its own.
  have hpieces : ∀ (pieces : List (List Char)) (g : Flow),
      (pieces.foldl (fun f piece => f.newLine.add piece) g).marked =
        g.marked + lineMarks pieces := by
    intro pieces
    induction pieces with
    | nil => exact fun g => rfl
    | cons piece rest ih =>
      intro g
      rw [List.foldl_cons, ih, marked_add, marked_newLine, lineMarks_cons, Nat.add_assoc]
  simp only [word]
  -- The word has room in the line, is chopped, or goes to the next line.
  split
  · exact Nat.le_of_eq (marked_add f w)
  · split
    · rw [hpieces]
      exact Nat.add_le_add_left (lineMarks_chop n w) _
    · exact Nat.le_of_eq (by rw [marked_add, marked_newLine])

/-- Words bring no more marks into a flow than they have. -/
theorem marked_foldl_word (overflow : Overflow) (n : Nat) (ws : List (List Char)) (f : Flow) :
    (ws.foldl (word overflow n) f).marked ≤ f.marked + lineMarks ws := by
  induction ws generalizing f with
  | nil => exact Nat.le_refl _
  | cons w rest ih =>
    have hword := marked_word overflow n f w
    have hrest := ih (f.word overflow n w)
    rw [List.foldl_cons, lineMarks_cons]
    omega

end Flow

/-- A wrapped line has no more marks. -/
theorem lineMarks_wrapLine (overflow : Overflow) (n : Nat) (s : List Char) :
    lineMarks (wrapLine overflow n s) ≤ marks s := by
  rw [wrapLine]
  split
  · rw [lineMarks_cons]
    exact Nat.le_refl _
  · rename_i ws hws
    -- The words together are the line, so they have its marks.
    have hflow := Flow.marked_foldl_word overflow n (words s) {}
    rw [lineMarks, flatten_words hws] at hflow
    rw [Flow.lines, lineMarks_append, lineMarks_cons]
    simpa [Flow.marked, lineMarks_nil, marks_nil] using hflow

/-- A wrapped text has no more marks, and less if it has tabs. -/
theorem marks_wrap (overflow : Overflow) (n : Nat) (s : List Char) :
    lineMarks (wrap overflow n s) ≤ marks s ∧
      ('\t' ∈ s → lineMarks (wrap overflow n s) < marks s) := by
  have hpart : ∀ part, marks (cutLine overflow n (dropOverhang n part)) ≤ marks part := fun part =>
    Nat.le_trans (marks_cutLine overflow n _) (marks_dropOverhang n part)
  have hbroken : ∀ line, lineMarks ((wrapLine overflow n line).map fun part =>
      cutLine overflow n (dropOverhang n part)) ≤ marks line := fun line =>
    Nat.le_trans (lineMarks_map_le hpart _).1 (lineMarks_wrapLine overflow n line)
  -- Lines are split, expanded and wrapped; each stage has no more marks than the one before.
  have hwrap := lineMarks_flatMap_le hbroken ((splitBy (· = '\n') s).map expandTabs)
  have htabs := lineMarks_map_le (fun line => (marks_expandTabs line).1) (splitBy (· = '\n') s)
  have hlines := lineMarks_splitBy_newline s
  rw [List.flatMap_map] at hwrap
  rw [wrap]
  refine ⟨by omega, fun htab => ?_⟩
  -- A tab is not what splits lines, so it is in one of them, and is lost when that is expanded.
  rcases mem_splitBy (p := (· = '\n')) htab with hnewline | ⟨line, hline, htab⟩
  · cases hnewline
  · have := htabs.2 ⟨line, hline, (marks_expandTabs line).2 htab⟩
    omega

/-! ### Tables -/

/-- The lines of a cell have no more marks than its text. -/
theorem lineMarks_cellLines (n : Nat) (s : List Char) :
    lineMarks (Table.cellLines n s) ≤ marks s := by
  rw [Table.cellLines]
  split
  · exact Nat.zero_le _
  -- A line of a cell gets blanks around it, which have no marks.
  · have hline : ∀ line, marks (' ' :: pad (n - cellPadding) line ++ [' ']) ≤ marks line := by
      intro line
      refine Nat.le_of_eq ?_
      rw [List.cons_append, marks_cons_of_not_isMark rfl, marks_append, marks_pad,
        marks_cons_of_not_isMark rfl, marks_nil, Nat.add_zero]
    exact Nat.le_trans (lineMarks_map_le hline _).1 (marks_wrap _ _ s).1

/-- Blank lines have no marks. -/
theorem lineMarks_replicate {line : List Char} (h : marks line = 0) (n : Nat) :
    lineMarks (List.replicate n line) = 0 := by
  induction n with
  | zero => rfl
  | succ n ih => rw [List.replicate_succ, lineMarks_cons, h, ih]

/-- The lines of a row have no more marks than its two texts. -/
theorem lineMarks_rowLines {bar : Char} (hbar : isMark bar = false) (atBottom : Bool) (a b : Nat)
    (row : Row) :
    lineMarks (Table.rowLines bar atBottom a b row) ≤ marks row.left + marks row.right := by
  -- Lines side by side: by induction on both columns, with the bars counting nothing.
  have hzip : ∀ lefts rights : List (List Char),
      lineMarks (List.zipWith (fun l r => bar :: l ++ bar :: r ++ [bar]) lefts rights) ≤
        lineMarks lefts + lineMarks rights := by
    intro lefts
    induction lefts with
    | nil => exact fun rights => Nat.zero_le _
    | cons left rest ih =>
      intro rights
      cases rights with
      | nil => exact Nat.zero_le _
      | cons right others =>
        have := ih others
        rw [List.zipWith_cons_cons, lineMarks_cons, lineMarks_cons, lineMarks_cons, marks_append,
          List.cons_append, marks_cons_of_not_isMark hbar, marks_append,
          marks_cons_of_not_isMark hbar, marks_cons_of_not_isMark hbar, marks_nil]
        omega
  have hblank : ∀ n m, lineMarks (List.replicate n (List.replicate m ' ')) = 0 := fun n m =>
    lineMarks_replicate (marks_replicate rfl m) n
  have hleft := lineMarks_cellLines a row.left
  have hright := lineMarks_cellLines b row.right
  simp only [Table.rowLines]
  -- The shorter column is filled with blank lines above or below its text.
  cases atBottom with
  | true =>
    refine Nat.le_trans (hzip _ _) ?_
    simp only [if_true, lineMarks_append, hblank]
    omega
  | false =>
    refine Nat.le_trans (hzip _ _) ?_
    simp only [Bool.false_eq_true, if_false, lineMarks_append, hblank]
    omega

/-- A line of a frame has no marks if its characters are none. -/
theorem marks_rule {left fill divider right : Char}
    (h : marks [left, fill, divider, right] = 0) (a b : Nat) :
    marks (Table.rule left fill divider right a b) = 0 := by
  refine marks_eq_zero.2 fun c hc => marks_eq_zero.1 h c ?_
  simp only [Table.rule, List.cons_append, List.append_assoc, List.mem_cons, List.mem_append,
    List.mem_replicate, List.not_mem_nil, or_false] at hc ⊢
  rcases hc with hc | ⟨_, hc⟩ | hc | ⟨_, hc⟩ | hc
  · exact .inl hc
  · exact .inr (.inl hc)
  · exact .inr (.inr (.inl hc))
  · exact .inr (.inl hc)
  · exact .inr (.inr (.inr hc))

/-- The marks in a row. -/
def Row.marked (r : Row) : Nat := marks r.left + marks r.right

/-- The marks in a table. -/
def Table.marked (t : Table) : Nat := ((t.head :: t.rows).map Row.marked).sum

/-- The lines of a table have no more marks than its texts. -/
theorem lineMarks_tableLines (t : Table) (n : Nat) : lineMarks (t.lines n) ≤ t.marked := by
  -- By induction on the rows.
  have hrows : ∀ (a b : Nat) (rows : List Row),
      lineMarks (rows.flatMap (Table.rowLines '│' false a b)) ≤ (rows.map Row.marked).sum := by
    intro a b rows
    induction rows with
    | nil => exact Nat.le_refl 0
    | cons row rest ih =>
      have := lineMarks_rowLines (show isMark '│' = false from rfl) false a b row
      rw [List.flatMap_cons, lineMarks_append, List.map_cons, List.sum_cons, Row.marked]
      omega
  rw [Table.lines]
  generalize t.widths (n - Table.frameWidth) = widths
  obtain ⟨a, b⟩ := widths
  have hhead := lineMarks_rowLines (show isMark '┃' = false from rfl) true a b t.head
  have hrows := hrows a b t.rows
  simp only [lineMarks_append, lineMarks_cons, lineMarks_nil, Table.marked, List.map_cons,
    List.sum_cons, Row.marked]
  rw [marks_rule (by decide), marks_rule (by decide), marks_rule (by decide)]
  omega

/-! ### Panels -/

/-- Centred between blanks, a text has no more marks. -/
theorem marks_centre (n : Nat) (s : List Char) : marks (centre n s) ≤ marks s := by
  have := marks_crop n s
  rw [centre]
  simp only [marks_append, marks_replicate (show isMark '─' = false from rfl)]
  omega

/-- A panel has no more marks than its title and its table. -/
theorem lineMarks_lines (p : Panel) (n : Nat) :
    lineMarks (p.lines n) ≤ marks p.title + p.table.marked := by
  have hframe : ∀ c ∈ ['╭', '─', '╮', '│', '╰', '╯', ' '], isMark c = false :=
    marks_eq_zero.1 (by decide)
  have hedge : ∀ m, marks (List.replicate m '─') = 0 := marks_replicate rfl
  -- The title, or as much of it as there is room for, between two edges.
  have htop : ∀ m, marks (p.top m) ≤ marks p.title := by
    intro m
    rw [Panel.top]
    split
    · simp [marks_append, marks_cons_of_not_isMark, hframe, hedge, marks_nil]
    · have := marks_centre (m - Panel.sides) (' ' :: p.title ++ [' '])
      simp only [marks_append, List.cons_append, marks_cons_of_not_isMark, hframe, List.mem_cons,
        true_or, or_true, marks_nil] at this ⊢
      omega
  -- Each line of the table between two bars.
  have hbody : ∀ m, lineMarks (p.body m) ≤ p.table.marked := by
    intro m
    rw [Panel.body]
    split
    · exact Nat.zero_le _
    · refine Nat.le_trans (lineMarks_map_le (fun line => ?_) _).1 (lineMarks_tableLines p.table _)
      have := marks_fit (m - Panel.sides) line
      simp only [marks_append, List.cons_append, marks_cons_of_not_isMark, hframe, List.mem_cons,
        true_or, or_true, marks_nil, List.nil_append]
      omega
  rw [Panel.lines]
  split
  · exact Nat.zero_le _
  · refine Nat.le_trans (lineMarks_map_le (marks_crop n) _).1 ?_
    have htop := htop (p.inside n)
    have hbody := hbody (p.inside n)
    simp only [lineMarks_append, lineMarks_cons, lineMarks_nil, List.cons_append, marks_append,
      marks_cons_of_not_isMark, hframe, List.mem_cons, true_or, or_true, hedge, marks_nil]
    omega

end Egress.Layout
