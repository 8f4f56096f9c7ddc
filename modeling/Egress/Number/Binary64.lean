/-! # Floating-point numbers of 64 bits

A number is a sign, a mantissa below `2 ^ 53` and an exponent of at least -1074; the mantissa is at
least `2 ^ 52` unless the exponent is -1074. Beside these there are the two infinities, and what is
not a number. Such a thing carries a payload that tells it from others: with itself it is never
equal, but a container recognises it again.

* `Binary64.round`   the number nearest to a quotient, a tie going to the even mantissa
* `Binary64.ofInt`, `Binary64.ofDecimal`   the nearest number to an integer, a decimal
* `Binary64.toInt?`  the integer that a number is
* `Binary64.eq`      numerical equality -/

namespace Egress

/-- A floating-point number. -/
inductive Binary64 where
  | finite (negative : Bool) (mantissa : Nat) (exponent : Int)
  | infinite (negative : Bool)
  | nan (payload : Nat)
  deriving DecidableEq, Repr

namespace Binary64

/-- The quotient of two numbers, to the nearest integer, a tie going to the even one. -/
def divideEven (num den : Nat) : Nat :=
  let q := num / den
  let r := num % den
  if 2 * r < den then q
  else if den < 2 * r then q + 1
  else if q % 2 = 0 then q else q + 1

/-- The quotient `num / den / 2 ^ e`, as a pair of numbers. -/
def scale (num den : Nat) (e : Int) : Nat × Nat :=
  if 0 ≤ e then (num, den * Nat.pow 2 e.toNat) else (num * Nat.pow 2 (-e).toNat, den)

/-- The floating-point number nearest to `± num / den`. -/
def round (negative : Bool) (num den : Nat) : Binary64 :=
  if num = 0 then .finite negative 0 (-1074)
  else
    let guess : Int := (num.log2 : Int) - (den.log2 : Int) - 53
    let e₀ := max guess (-1074)
    let (n₀, d₀) := scale num den e₀
    let e := if Nat.pow 2 53 ≤ n₀ / d₀ then e₀ + 1 else e₀
    let (n, d) := scale num den e
    let m := divideEven n d
    let (m, e) := if m = Nat.pow 2 53 then (Nat.pow 2 52, e + 1) else (m, e)
    if 971 < e then .infinite negative else .finite negative m e

/-- The floating-point number nearest to an integer. -/
def ofInt (n : Int) : Binary64 := round (n < 0) n.natAbs 1

/-- The floating-point number nearest to `± digits * 10 ^ exponent`. Sizes far outside the range
are settled without the power. -/
def ofDecimal (negative : Bool) (digits : Nat) (exponent : Int) : Binary64 :=
  if digits = 0 then .finite negative 0 (-1074)
  else
    let size : Int := (digits.log2 : Int) * 30103 / 100000 + exponent
    if 400 < size then .infinite negative
    else if size < -400 then .finite negative 0 (-1074)
    else if 0 ≤ exponent then round negative (digits * Nat.pow 10 exponent.toNat) 1
    else round negative digits (Nat.pow 10 (-exponent).toNat)

/-- Whether the number is finite. -/
def isFinite : Binary64 → Bool
  | finite .. => true
  | _ => false

/-- The integer that a number is, if it is one. -/
def toInt? : Binary64 → Option Int
  | finite negative m e =>
    if 0 ≤ e then some ((if negative then -1 else 1) * (m * Nat.pow 2 e.toNat : Nat))
    else if m % Nat.pow 2 (-e).toNat = 0 then
      some ((if negative then -1 else 1) * (m / Nat.pow 2 (-e).toNat : Nat))
    else none
  | _ => none

/-- The integer part of a number, towards zero. -/
def truncate? : Binary64 → Option Int
  | finite negative m e =>
    if 0 ≤ e then some ((if negative then -1 else 1) * (m * Nat.pow 2 e.toNat : Nat))
    else some ((if negative then -1 else 1) * (m / Nat.pow 2 (-e).toNat : Nat))
  | _ => none

/-- Whether the number is zero, of either sign. -/
def isZero : Binary64 → Bool
  | finite _ m _ => m == 0
  | _ => false

/-- Numerical equality: the zeros are equal, and what is not a number equals nothing. -/
def eq : Binary64 → Binary64 → Bool
  | finite n m e, finite n' m' e' => (m == 0 && m' == 0) || (n == n' && m == m' && e == e')
  | infinite n, infinite n' => n == n'
  | _, _ => false

end Binary64

end Egress
