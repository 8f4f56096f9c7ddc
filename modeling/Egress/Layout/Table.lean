import Egress.Layout.Wrap

/-! # Tables

A table has two columns under a heading, in a frame. A column is as wide as its widest cell, with a
blank on either side. When a table is too wide for its place, the wider column gives way until
both are equally wide, and then both do; cells wrap, and what still does not fit is cut.

* `Table.widths`   the widths of the columns in a given number of cells
* `Table.extent`   the cells that a table takes at most
* `Table.lines`    the table, drawn -/

namespace Egress.Layout

open Egress.Text (splitBy)

/-- A row of a table. -/
structure Row where
  -- The cell in the left column.
  left : List Char
  -- The cell in the right column.
  right : List Char
  deriving DecidableEq, Repr

/-- A table of two columns. -/
structure Table where
  head : Row
  rows : List Row

/-- Whether a character ends a line of a text whose width is taken. -/
def isLineEnd (c : Char) : Bool :=
  let n := c.toNat
  (0x0A ≤ n && n ≤ 0x0D) || (0x1C ≤ n && n ≤ 0x1E) || n == 0x85 || n == 0x2028 || n == 0x2029

/-- The cells of the widest line of a text. -/
def textWidth (s : List Char) : Nat := ((splitBy isLineEnd s).map width).foldl max 0

/-- The cells beside the text of a cell. -/
def cellPadding : Nat := 2

/-- The width of a column with the given cells, where `n` cells are at hand. -/
def columnWidth (n : Nat) (cells : List (List Char)) : Nat :=
  if n ≤ cellPadding then n else min n ((cells.map textWidth).foldl max 0 + cellPadding)

/-- Half of a number, a half of one going to the even neighbour. -/
def halfEven (n : Nat) : Nat := if n % 4 = 3 then n / 2 + 1 else n / 2

/-- Two widths reduced to a sum of `n`: the larger one first, until both are equal, and then both.
Of an odd rest, the left one gives the even part. -/
def share (a b n : Nat) : Nat × Nat :=
  let low := min a b
  if n < 2 * low then
    let excess := 2 * low - n
    (low - halfEven excess, low - (excess - halfEven excess))
  else if a ≤ b then (a, n - a)
  else (n - b, b)

theorem share_sum (a b n : Nat) : (share a b n).1 + (share a b n).2 = n := by
  simp only [share, halfEven]
  repeat' split
  all_goals simp only
  all_goals omega

namespace Table

/-- The cells of the left column. -/
def lefts (t : Table) : List (List Char) := (t.head :: t.rows).map (·.left)

/-- The cells of the right column. -/
def rights (t : Table) : List (List Char) := (t.head :: t.rows).map (·.right)

/-- The widths of the columns, where `n` cells are at hand for both. -/
def widths (t : Table) (n : Nat) : Nat × Nat :=
  let a := max 1 (columnWidth n t.lefts)
  let b := max 1 (columnWidth n t.rights)
  if a + b ≤ n then (a, b)
  else (columnWidth (share a b n).1 t.lefts, columnWidth (share a b n).2 t.rights)

/-- The cells of the frame of a table. -/
def frameWidth : Nat := 3

/-- The cells that a table takes at most, where `n` cells are at hand. -/
def extent (t : Table) (n : Nat) : Nat :=
  let (a, b) := t.widths (n - frameWidth)
  min n (columnWidth (a + b) t.lefts + columnWidth (a + b) t.rights + frameWidth)

/-- A line of a frame: its left end, filling, divider and right end. -/
def rule (left fill divider right : Char) (a b : Nat) : List Char :=
  left :: List.replicate a fill ++ divider :: List.replicate b fill ++ [right]

/-- The lines of a cell of width `n`. A cell without room for any text has none. -/
def cellLines (n : Nat) (s : List Char) : List (List Char) :=
  if n ≤ cellPadding then []
  else
    (wrap .ellipsis (n - cellPadding) s).map fun line =>
      ' ' :: pad (n - cellPadding) line ++ [' ']

/-- The lines of a row, where cells with fewer lines than others begin at the top or end at the
bottom. -/
def rowLines (bar : Char) (atBottom : Bool) (a b : Nat) (row : Row) : List (List Char) :=
  let left := cellLines a row.left
  let right := cellLines b row.right
  let height := max 1 (max left.length right.length)
  let fill (n : Nat) (lines : List (List Char)) : List (List Char) :=
    let blank := List.replicate (height - lines.length) (List.replicate n ' ')
    if atBottom then blank ++ lines else lines ++ blank
  List.zipWith (fun l r => bar :: l ++ bar :: r ++ [bar]) (fill a left) (fill b right)

/-- The lines of a table, where `n` cells are at hand. -/
def lines (t : Table) (n : Nat) : List (List Char) :=
  let (a, b) := t.widths (n - frameWidth)
  [rule '┏' '━' '┳' '┓' a b] ++ rowLines '┃' true a b t.head ++ [rule '┡' '━' '╇' '┩' a b] ++
    t.rows.flatMap (rowLines '│' false a b) ++ [rule '└' '─' '┴' '┘' a b]

end Table

end Egress.Layout
