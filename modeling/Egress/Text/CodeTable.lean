/-! # Tables over code points

Properties of characters come as lists of code point ranges. A table is written as text, ranges in
hexadecimal separated by blanks or line ends (`41-5A AA B5`), and read once:

* `CodeTable`   a set of code points, `contains`
* `CodeMap`     a value for each code point in a range, `find?`

Code points are natural numbers, because a label may name one that is no character. -/

namespace Egress.Text

/-- The value of a hexadecimal digit of either case. -/
def hexValue? (c : Char) : Option Nat :=
  if '0' ≤ c ∧ c ≤ '9' then some (c.toNat - 48)
  else if 'A' ≤ c ∧ c ≤ 'F' then some (c.toNat - 55)
  else if 'a' ≤ c ∧ c ≤ 'f' then some (c.toNat - 87)
  else none

/-- The number written by hexadecimal digits; other characters are passed over. -/
def ofHex (s : List Char) : Nat :=
  s.foldl (fun n c => match hexValue? c with
    | some d => 16 * n + d
    | none => n) 0

/-- The pieces of a text between the characters satisfying `p`. -/
def splitBy (p : Char → Bool) (s : List Char) : List (List Char) :=
  s.foldr (fun c pieces =>
    if p c then [] :: pieces
    else match pieces with
      | [] => [[c]]
      | piece :: rest => (c :: piece) :: rest) [[]]

/-- The pieces of a text between blanks and line ends, without the empty ones. -/
def words (s : List Char) : List (List Char) :=
  (splitBy (fun c => c = ' ' || c = '\n') s).filter (· ≠ [])

/-- The range written `lo-hi`, or `lo` for a single code point. -/
def ofRange (s : List Char) : Nat × Nat :=
  match splitBy (· = '-') s with
  | [lo] => (ofHex lo, ofHex lo)
  | lo :: hi :: _ => (ofHex lo, ofHex hi)
  | [] => (0, 0)

/-- A set of code points, given by inclusive ranges. -/
structure CodeTable where
  -- The ranges, each with its first and last code point.
  ranges : Array (Nat × Nat)

namespace CodeTable

/-- Reads the written form of a table. -/
def ofText (s : String) : CodeTable :=
  ⟨((words s.toList).map ofRange).toArray⟩

/-- Whether the code point lies in one of the ranges. -/
def contains (t : CodeTable) (n : Nat) : Bool :=
  t.ranges.any fun r => r.1 ≤ n && n ≤ r.2

theorem contains_iff (t : CodeTable) (n : Nat) :
    t.contains n = true ↔ ∃ r ∈ t.ranges, r.1 ≤ n ∧ n ≤ r.2 := by
  simp only [contains, Array.any_eq_true', Bool.and_eq_true, decide_eq_true_eq]

/-- A table whose ranges lie outside of a range holds nothing in it. -/
theorem not_contains_ofText {l : List Char} {lo hi n : Nat}
    (h : ((words l).all fun item => (ofRange item).2 < lo || hi < (ofRange item).1) = true)
    (hlo : lo ≤ n) (hhi : n ≤ hi) : (ofText (String.ofList l)).contains n = false := by
  rw [Bool.eq_false_iff]
  intro hcontains
  obtain ⟨r, hr, hle, hge⟩ := (contains_iff _ n).1 hcontains
  rw [ofText, String.toList_ofList, List.mem_toArray] at hr
  obtain ⟨item, hitem, rfl⟩ := List.mem_map.1 hr
  have hout := List.all_eq_true.1 h item hitem
  simp only [Bool.or_eq_true, decide_eq_true_eq] at hout
  omega

end CodeTable

/-- A partial map from code points, given by inclusive ranges with a value each. -/
structure CodeMap (α : Type) where
  -- First code point, last code point and value of each range.
  entries : Array (Nat × Nat × α)

namespace CodeMap

/-- Reads the written form of a map: ranges, each followed by `:` and the value's text. -/
def ofText (value : List Char → α) (s : String) : CodeMap α :=
  ⟨((words s.toList).map fun item =>
    let range := ofRange (item.takeWhile (· ≠ ':'))
    (range.1, range.2, value ((item.dropWhile (· ≠ ':')).drop 1))).toArray⟩

/-- What holds of every range of a written map holds of its entries. -/
theorem all_entries_ofText {value : List Char → α} {p : Nat × Nat × α → Bool} {l : List Char}
    (h : ((words l).all fun item =>
      let range := ofRange (item.takeWhile (· ≠ ':'))
      p (range.1, range.2, value ((item.dropWhile (· ≠ ':')).drop 1))) = true) :
    (ofText value (String.ofList l)).entries.all p = true := by
  simp only [ofText, String.toList_ofList, List.all_toArray, List.all_map]
  exact h

/-- The entry of the first range that holds the code point. -/
def entry? (m : CodeMap α) (n : Nat) : Option (Nat × Nat × α) :=
  m.entries.find? fun e => e.1 ≤ n && n ≤ e.2.1

/-- The value of the first range that holds the code point. -/
def find? (m : CodeMap α) (n : Nat) : Option α :=
  (m.entry? n).map (·.2.2)

end CodeMap

end Egress.Text
