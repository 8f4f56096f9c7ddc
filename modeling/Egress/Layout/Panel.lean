import Egress.Layout.Table

/-! # Panels

A panel is a table in a frame with rounded corners and a title. The frame is as narrow as the
table and the title let it be. -/

namespace Egress.Layout

/-- A text in the middle of `n` cells, with a line on either side; the right side takes the odd
cell. A text that is too wide is cut. -/
def centre (n : Nat) (s : List Char) : List Char :=
  let s := crop n s
  let excess := n - width s
  List.replicate (excess / 2) '─' ++ s ++ List.replicate (excess - excess / 2) '─'

/-- A table with a title. -/
structure Panel where
  title : List Char
  table : Table

namespace Panel

/-- The cells at the sides of a panel: those of its frame, and as many blanks. -/
def sides : Nat := 2

/-- The cells inside the frame of a panel, where `n` cells are at hand for the panel. -/
def inside (p : Panel) (n : Nat) : Nat :=
  let room := n - sides
  let table := if room ≤ sides then room else min room (p.table.extent room + sides)
  min room (max table (width p.title + 4))

/-- The upper line of a panel, which has `n` cells inside its frame. -/
def top (p : Panel) (n : Nat) : List Char :=
  if n ≤ sides then '╭' :: List.replicate n '─' ++ ['╮']
  else ['╭', '─'] ++ centre (n - sides) (' ' :: p.title ++ [' ']) ++ ['─', '╮']

/-- The lines of the table of a panel, which has `n` cells inside its frame. -/
def body (p : Panel) (n : Nat) : List (List Char) :=
  if n ≤ sides then []
  else (p.table.lines (n - sides)).map fun line => ['│', ' '] ++ fit (n - sides) line ++ [' ', '│']

/-- The lines of a panel in a page of `n` cells. -/
def lines (p : Panel) (n : Nat) : List (List Char) :=
  if n = 0 then []
  else
    let m := p.inside n
    ([p.top m] ++ p.body m ++ ['╰' :: List.replicate m '─' ++ ['╯']]).map (crop n)

end Panel

end Egress.Layout
