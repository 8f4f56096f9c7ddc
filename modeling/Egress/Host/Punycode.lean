/-! # Punycode

The encoding of arbitrary code points by letters, digits and hyphens. The basic code points of a
text come first, and then, for each other code point in rising order, the distance from the place
of the one before, written as a variable-length number in base 36 whose digit thresholds adapt.

* `encode`   the encoded text of a sequence of code points
* `decode`   the code points of an encoded text, when it is one

Each number takes at least one digit (`length_readDelta`), so decoding ends. -/

namespace Egress.Host.Punycode

/-- The letter or digit for a value below 36. -/
def digitChar (d : Nat) : Char :=
  if d < 26 then Char.ofNat (97 + d) else Char.ofNat (22 + d)

/-- The value of a letter of either case or of a digit. -/
def digitValue? (c : Char) : Option Nat :=
  if 'a' ≤ c ∧ c ≤ 'z' then some (c.toNat - 97)
  else if 'A' ≤ c ∧ c ≤ 'Z' then some (c.toNat - 65)
  else if '0' ≤ c ∧ c ≤ '9' then some (c.toNat - 22)
  else none

/-- The threshold of the digit at position `j`: between 1 and 26. -/
def threshold (j bias : Nat) : Nat := min 26 (max 1 (36 * (j + 1) - bias))

theorem one_le_threshold (j bias : Nat) : 1 ≤ threshold j bias := by
  unfold threshold; omega

theorem threshold_le (j bias : Nat) : threshold j bias ≤ 26 := by
  unfold threshold; omega

/-- Divides by 35 until at most 455 is left, and counts 36 for each division. -/
def shrink (delta k : Nat) : Nat × Nat :=
  if 455 < delta then shrink (delta / 35) (k + 36) else (delta, k)
termination_by delta

/-- The bias after a number: `points` code points are now in the text. -/
def adapt (delta : Nat) (first : Bool) (points : Nat) : Nat :=
  let scaled := if first then delta / 700 else delta / 2
  let (rest, k) := shrink (scaled + scaled / points) 0
  k + 36 * rest / (rest + 38)

/-! ## Encoding -/

/-- The digits of a number, lowest first. -/
def writeDelta (bias j n : Nat) : List Char :=
  let t := threshold j bias
  if n < t then [digitChar n]
  else digitChar (t + (n - t) % (36 - t)) :: writeDelta bias (j + 1) ((n - t) / (36 - t))
termination_by n
decreasing_by
  have h1 := one_le_threshold j bias
  calc (n - threshold j bias) / (36 - threshold j bias)
      ≤ n - threshold j bias := Nat.div_le_self _ _
    _ < n := by omega

/-- An encoding in progress. -/
structure Encoder where
  out : List Char
  -- The distance since the last number.
  delta : Nat
  bias : Nat
  -- How many code points are covered.
  points : Nat

/-- Passes over one code point of the text while the code point `m` is being placed. -/
def Encoder.see (basic m : Nat) (e : Encoder) (c : Nat) : Encoder :=
  if c < m then { e with delta := e.delta + 1 }
  else if c = m then
    ⟨e.out ++ writeDelta e.bias 0 e.delta, 0, adapt e.delta (e.points == basic) (e.points + 1),
      e.points + 1⟩
  else e

/-- Places every occurrence of `m`, where `n` is the least code point not yet placed. -/
def Encoder.place (text : List Nat) (basic : Nat) (s : Encoder × Nat) (m : Nat) : Encoder × Nat :=
  let e := { s.1 with delta := s.1.delta + (m - s.2) * (s.1.points + 1) }
  let e := text.foldl (see basic m) e
  ({ e with delta := e.delta + 1 }, m + 1)

/-- Inserts a number into a rising list that holds each number once. -/
def insertRising (n : Nat) : List Nat → List Nat
  | [] => [n]
  | m :: rest =>
    if n < m then n :: m :: rest else if n = m then m :: rest else m :: insertRising n rest

/-- The Punycode form of a text. -/
def encode (text : List Nat) : List Char :=
  let basic := (text.filter (· < 128)).map Char.ofNat
  let others := (text.filter (128 ≤ ·)).foldl (fun l n => insertRising n l) []
  let start : Encoder := ⟨[], 0, 72, basic.length⟩
  let last := (others.foldl (Encoder.place text basic.length) (start, 128)).1
  if basic = [] then last.out else basic ++ '-' :: last.out

/-! ## Decoding -/

/-- Reads one number: `weight` is the weight of the digit at position `j`. -/
def readDelta (bias j weight sum : Nat) : List Nat → Option (Nat × List Nat)
  | [] => none
  | d :: rest =>
    let t := threshold j bias
    if d < t then some (sum + d * weight, rest)
    else readDelta bias (j + 1) (weight * (36 - t)) (sum + d * weight) rest

theorem length_readDelta {bias j weight sum : Nat} {digits rest : List Nat} {n : Nat}
    (h : readDelta bias j weight sum digits = some (n, rest)) : rest.length < digits.length := by
  induction digits generalizing j weight sum with
  | nil => simp [readDelta] at h
  | cons d digits ih =>
    rw [readDelta] at h
    split at h
    · simp only [Option.some.injEq, Prod.mk.injEq] at h
      simp [h.2]
    · have := ih h
      simp only [List.length_cons]
      omega

/-- Inserts the code points that the digits name into the text; `n` is the present code point and
`i` the place after the last insertion. -/
def insertAll (text : List Nat) (n i bias : Nat) (first : Bool) (digits : List Nat) :
    Option (List Nat) :=
  if digits = [] then some text
  else match h : readDelta bias 0 1 0 digits with
  | none => none
  | some (delta, rest) =>
    let place := i + delta
    let n := n + place / (text.length + 1)
    if n > 0x10FFFF then none
    else
      let at' := place % (text.length + 1)
      let text := text.take at' ++ n :: text.drop at'
      insertAll text n (at' + 1) (adapt delta first text.length) false rest
termination_by digits.length
decreasing_by exact length_readDelta h

/-- The text whose Punycode form this is: what stands before the last hyphen is basic. -/
def decode (s : List Char) : Option (List Nat) :=
  let reversed := s.reverse
  let tail := (reversed.takeWhile (· != '-')).reverse
  let head := ((reversed.dropWhile (· != '-')).drop 1).reverse
  (tail.mapM digitValue?).bind fun digits => insertAll (head.map Char.toNat) 128 0 72 true digits

end Egress.Host.Punycode
