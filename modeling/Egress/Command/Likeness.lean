/-! # Likeness of names

How much two names have in common: the longest common block, and on either side of it the longest
common block of what is left there, and so on. Names are alike when the characters in common make
up six tenths of both. -/

namespace Egress.Command

/-- The length of the longest common beginning of two names. -/
def commonStart : List Char → List Char → Nat
  | a :: s, b :: t => if a = b then commonStart s t + 1 else 0
  | _, _ => 0

theorem commonStart_le (s t : List Char) : commonStart s t ≤ s.length := by
  fun_induction commonStart s t <;> simp_all

/-- The longest common block of two names: where it begins in each, and its length. Of several, the
first one in the first name counts, and then the first one in the second name. -/
def longestBlock (s t : List Char) : Nat × Nat × Nat :=
  ((List.range s.length).flatMap fun i => (List.range t.length).map fun j =>
      (i, j, commonStart (s.drop i) (t.drop j))).foldl
    (fun best block => if best.2.2 < block.2.2 then block else best) (0, 0, 0)

/-- The number of characters that two names have in common, in blocks nested up to `depth`. -/
def commonWithin : Nat → List Char → List Char → Nat
  | 0, _, _ => 0
  | depth + 1, s, t =>
    let (i, j, n) := longestBlock s t
    if n = 0 then 0
    else n + commonWithin depth (s.take i) (t.take j) +
      commonWithin depth (s.drop (i + n)) (t.drop (j + n))

/-- The number of characters that two names have in common. -/
def common (s t : String) : Nat := commonWithin s.length s.toList t.toList

/-- Whether two names are alike. -/
def alike (s t : String) : Bool := 3 * (s.length + t.length) ≤ 10 * common s t

end Egress.Command
