import Egress.Text.NormalTable

/-! # Normalization Form C

A text is decomposed canonically, its combining marks are put into canonical order, and then pairs
are composed. Code points are natural numbers here, as decoded labels may hold any of them.

* `decompose`   the full decomposition of one code point
* `reorder`     the canonical order
* `compose`     the composition
* `normalize`   all three, one after the other -/

namespace Egress.Text

/-- The canonical combining class. -/
def combiningClass (n : Nat) : Nat := (combiningClasses.find? n).getD 0

/-- The full canonical decomposition; `depth` bounds the nesting of decompositions. -/
def decomposeWithin : Nat → Nat → List Nat
  | 0, n => [n]
  | depth + 1, n =>
    if n < 0xC0 then [n]
    else if 0xAC00 ≤ n ∧ n ≤ 0xD7A3 then
      let i := n - 0xAC00
      let lead := 0x1100 + i / 588
      let vowel := 0x1161 + i % 588 / 28
      if i % 28 = 0 then [lead, vowel] else [lead, vowel, 0x11A7 + i % 28]
    else match decompositions.find? n with
      | some parts => parts.flatMap (decomposeWithin depth)
      | none => [n]

/-- The full canonical decomposition of a code point: no chain of steps is longer than four. -/
def decompose (n : Nat) : List Nat := decomposeWithin 4 n

/-- Puts a code point before the marks of higher class at the end of a reversed text. -/
def insertMark (n : Nat) : List Nat → List Nat
  | [] => [n]
  | m :: before =>
    if combiningClass n ≠ 0 ∧ combiningClass n < combiningClass m then m :: insertMark n before
    else n :: m :: before

/-- The canonical order: runs of marks sorted by class, stably. -/
def reorder (s : List Nat) : List Nat :=
  (s.foldl (fun reversed n => insertMark n reversed) []).reverse

/-- The character composed of two. -/
def composed? (a b : Nat) : Option Nat :=
  if 0x1100 ≤ a ∧ a < 0x1113 ∧ 0x1161 ≤ b ∧ b < 0x1176 then
    some (0xAC00 + ((a - 0x1100) * 21 + (b - 0x1161)) * 28)
  else if 0xAC00 ≤ a ∧ a ≤ 0xD7A3 ∧ (a - 0xAC00) % 28 = 0 ∧ 0x11A7 < b ∧ b < 0x11C3 then
    some (a + (b - 0x11A7))
  else
    (decompositions.entries.find? fun e =>
      e.2.2 == [a, b] && !compositionExclusions.contains e.1).map (·.1)

/-- A text under composition: what is done, the last starter, and the marks kept after it,
reversed. -/
structure Composition where
  -- What stands before the last starter, reversed.
  done : List Nat
  starter : Option Nat
  -- The code points after the last starter, reversed.
  marks : List Nat

def Composition.text (c : Composition) : List Nat :=
  (c.marks ++ c.starter.toList ++ c.done).reverse

/-- Adds the next code point: it is composed with the last starter unless a mark of the same or
a higher class stands between. -/
def Composition.add (c : Composition) (n : Nat) : Composition :=
  let cls := combiningClass n
  let open? := match c.marks with
    | [] => true
    | m :: _ => combiningClass m < cls && combiningClass m ≠ 0
  match c.starter.bind fun s => if open? then composed? s n else none with
  | some whole => { c with starter := some whole }
  | none =>
    if cls = 0 then ⟨c.marks ++ c.starter.toList ++ c.done, some n, []⟩
    else { c with marks := n :: c.marks }

/-- Composes what can be composed. -/
def compose (s : List Nat) : List Nat :=
  (s.foldl Composition.add ⟨[], none, []⟩).text

/-- Normalization Form C. -/
def normalize (s : List Nat) : List Nat :=
  if s.all (· < 0x300) then s else compose (reorder (s.flatMap decompose))

end Egress.Text
