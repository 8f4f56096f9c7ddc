import Egress.Layout.Cells
import Egress.Text.Blank

/-! # Wrapping text

A text is shown in lines of a given number of cells. Lines end where the text has line ends, and
else before a word that does not fit. Blanks stay with the word before them; those that reach
beyond the end of a line are left out.

* `words`       the words of a line, which make up the line unless it is blank
* `wrapLine`    a line broken before words
* `wrap`        a text in lines, each of them at most as wide as asked for -/

namespace Egress.Layout

open Egress.Text (isBlank splitBy)

/-- What becomes of a word that is wider than a line. -/
inductive Overflow where
  -- It is folded: cut into pieces, a line each.
  | fold
  -- It stays in one line, which is cut and ends with an ellipsis.
  | ellipsis
  deriving DecidableEq, Repr

/-! ## Tabs -/

/-- The cells from one tab stop to the next. -/
def tabSize : Nat := 8

/-- Pieces of a line that begin at a column, with blanks up to the next tab stop between them. -/
def expandFrom (column : Nat) : List (List Char) → List Char
  | [] => []
  | [piece] => piece
  | piece :: rest =>
    let used := column + width piece
    let stop := (used / tabSize + 1) * tabSize
    piece ++ List.replicate (stop - used) ' ' ++ expandFrom stop rest

/-- A line with its tabs replaced by blanks. -/
def expandTabs (s : List Char) : List Char := expandFrom 0 (splitBy (· = '\t') s)

/-! ## Words -/

/-- The blanks at the beginning of a line, and its words, each with the blanks after it. -/
def cutWords : List Char → List Char × List (List Char)
  | [] => ([], [])
  | c :: rest =>
    let (lead, words) := cutWords rest
    if isBlank c then (c :: lead, words)
    else match lead, words with
      | [], w :: words => ([], (c :: w) :: words)
      | lead, words => ([], (c :: lead) :: words)

/-- The words of a line, each with the blanks after it, and the first with those before it too. A
blank line has none. -/
def words (s : List Char) : List (List Char) :=
  match cutWords s with
  | (_, []) => []
  | (lead, w :: words) => (lead ++ w) :: words

/-- The blanks at the beginning and the words of a line make up the line. -/
theorem flatten_cutWords (s : List Char) : (cutWords s).1 ++ (cutWords s).2.flatten = s := by
  induction s with
  | nil => rfl
  | cons c rest ih =>
    simp only [cutWords]
    split
    · simp [ih]
    · split <;> simp_all

/-- The words of a line make up the line, unless there are none. -/
theorem flatten_words {s : List Char} (h : words s ≠ []) : (words s).flatten = s := by
  have hs := flatten_cutWords s
  unfold words at h ⊢
  split at h
  · exact absurd rfl h
  · rename_i lead w ws e
    rw [e] at hs
    simpa using hs

/-! ## Lines -/

/-- A line in the making: the finished lines before it, its text, and the cells that it takes. -/
structure Flow where
  -- The finished lines.
  done : List (List Char) := []
  line : List Char := []
  -- The cells that the line takes.
  cells : Nat := 0

namespace Flow

/-- Begins a new line, except at the very beginning. -/
def newLine (f : Flow) : Flow :=
  if f.done = [] ∧ f.line = [] then f else ⟨f.done ++ [f.line], [], 0⟩

/-- Puts a text at the end of the line. -/
def add (f : Flow) (s : List Char) : Flow := ⟨f.done, f.line ++ s, f.cells + width s⟩

/-- Puts a word at the end of the line, or into a line of its own if the line has no room for it.
The blanks after a word need no room. -/
def word (overflow : Overflow) (n : Nat) (f : Flow) (w : List Char) : Flow :=
  let room := width (w.reverse.dropWhile isBlank).reverse
  if f.cells + room ≤ n then f.add w
  else if n < room ∧ overflow = .fold then
    (chop n w).foldl (fun f piece => f.newLine.add piece) f
  else f.newLine.add w

/-- All lines. -/
def lines (f : Flow) : List (List Char) := f.done ++ [f.line]

end Flow

/-- A line broken before the words that do not fit into `n` cells. -/
def wrapLine (overflow : Overflow) (n : Nat) (s : List Char) : List (List Char) :=
  match words s with
  | [] => [s]
  | ws => (ws.foldl (Flow.word overflow n) {}).lines

/-- A line without blanks at its end that reach beyond `n` characters. -/
def dropOverhang (n : Nat) (s : List Char) : List Char :=
  s.take (s.length - min (s.reverse.takeWhile isBlank).length (s.length - n))

/-- A line cut to `n` cells. -/
def cutLine (overflow : Overflow) (n : Nat) (s : List Char) : List Char :=
  if width s ≤ n then s
  else match overflow with
    | .fold => crop n s
    | .ellipsis => fit (n - 1) s ++ ['…']

/-- A text in lines of at most `n` cells. -/
def wrap (overflow : Overflow) (n : Nat) (s : List Char) : List (List Char) :=
  (splitBy (· = '\n') s).flatMap fun line =>
    (wrapLine overflow n (expandTabs line)).map fun part =>
      cutLine overflow n (dropOverhang n part)

end Egress.Layout
