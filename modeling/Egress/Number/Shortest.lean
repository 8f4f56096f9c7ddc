import Egress.Number.Binary64

/-! # The shortest decimal of a floating-point number

A finite number is written by the fewest digits that read back as it, and of those by the ones
nearest to it. `shortest` finds them in exact arithmetic; `Binary64.text` lays them out: with a
point for sizes from `10 ^ -4` to below `10 ^ 16`, and with an exponent outside. -/

namespace Egress

namespace Binary64

/-- A decimal `digits * 10 ^ exponent`. -/
structure Decimal where
  digits : Nat
  -- The power of ten.
  exponent : Int
  deriving DecidableEq, Repr

/-- The decimal logarithm of a positive quotient, rounded down; the guess `k` is corrected by at
most one in each direction. -/
def log10 (num den : Nat) : Int :=
  let atLeast (k : Int) : Bool :=
    if 0 ≤ k then den * Nat.pow 10 k.toNat ≤ num else den ≤ num * Nat.pow 10 (-k).toNat
  let k : Int := ((num.log2 : Int) - (den.log2 : Int)) * 30103 / 100000
  if atLeast (k + 1) then k + 1
  else if atLeast k then k
  else if atLeast (k - 1) then k - 1
  else k - 2

/-- The decimal of `places` digits nearest to the number, if it reads back as the number. -/
def shortestWith? (m : Nat) (e : Int) (places : Nat) : Option Decimal :=
  let (num, den) := if 0 ≤ e then (m * Nat.pow 2 e.toNat, 1) else (m, Nat.pow 2 (-e).toNat)
  let x := log10 num den - (places - 1)
  let (n, d) :=
    if 0 ≤ x then (num, den * Nat.pow 10 x.toNat) else (num * Nat.pow 10 (-x).toNat, den)
  let digits := divideEven n d
  if ofDecimal false digits x = .finite false m e then some ⟨digits, x⟩ else none

/-- The fewest digits that read back as the number; seventeen are always enough. -/
def shortest (m : Nat) (e : Int) : Decimal :=
  (((List.range 17).map (· + 1)).findSome? (shortestWith? m e)).getD ⟨m, e⟩

/-- A decimal without zeros at the end of its digits. -/
def Decimal.strip : Nat → Decimal → Decimal
  | 0, d => d
  | fuel + 1, d =>
    if d.digits ≠ 0 ∧ d.digits % 10 = 0 then strip fuel ⟨d.digits / 10, d.exponent + 1⟩ else d

/-- The text of a positive decimal. -/
def Decimal.text (d : Decimal) : String :=
  let digits := (toString d.digits).toList
  let count : Int := digits.length
  let point := count + d.exponent
  if -4 < point ∧ point ≤ 16 then
    if d.exponent ≥ 0 then
      String.ofList (digits ++ List.replicate d.exponent.toNat '0') ++ ".0"
    else if point ≤ 0 then
      "0." ++ String.ofList (List.replicate (-point).toNat '0' ++ digits)
    else
      String.ofList (digits.take point.toNat ++ '.' :: digits.drop point.toNat)
  else
    let power := point - 1
    let tail := digits.drop 1
    String.ofList (digits.take 1 ++ (if tail = [] then [] else '.' :: tail)) ++ "e" ++
      (if power < 0 then "-" else "+") ++
      (if power.natAbs < 10 then "0" else "") ++ toString power.natAbs

/-- The text of a floating-point number. -/
def text : Binary64 → String
  | finite negative m e =>
    (if negative then "-" else "") ++
      (if m = 0 then "0.0" else ((shortest m e).strip 17).text)
  | infinite negative => if negative then "-inf" else "inf"
  | nan _ => "nan"

end Binary64

end Egress
