import Egress.Number.Binary64
import Egress.Number.IntText

/-! # Floating-point numbers in texts

The text of a number is an optional sign, digits with at most one point among them, and an optional
exponent; single underscores may stand between digits. `inf`, `infinity` and `nan` in letters of
any case are numbers too. -/

namespace Egress.Number

open Egress.Text

/-- The digits of a part of a number, which may be absent. -/
def partDigits (value? : Char → Option Nat) (s : List Char) : Option (List Nat) :=
  if s = [] then some [] else digitsOf value? s

/-- The number that an unsigned text stands for. -/
def readUnsigned (value? : Char → Option Nat) (negative : Bool) (s : List Char) : Option Binary64 :=
  let word := s.map Char.toLower
  if word = "inf".toList ∨ word = "infinity".toList then some (.infinite negative)
  else if word = "nan".toList then some (.nan 0)
  else
    let isMark := fun c : Char => c = 'e' || c = 'E'
    let significand := s.takeWhile (!isMark ·)
    let exponent? : Option Int := match s.dropWhile (!isMark ·) with
      | [] => some 0
      | _ :: power =>
        let (minus, power) := cutSign power
        (digitsOf value? power).map fun ds => signed minus (ofDigits ds)
    let whole := significand.takeWhile (· != '.')
    let fraction := (significand.dropWhile (· != '.')).drop 1
    match partDigits value? whole, partDigits value? fraction, exponent? with
    | some w, some f, some x =>
      if w = [] ∧ f = [] then none
      else some (Binary64.ofDecimal negative (ofDigits (w ++ f)) (x - f.length))
    | _, _, _ => none

/-- The number that a text stands for, without blanks around it. -/
def readFloat (value? : Char → Option Nat) (s : List Char) : Option Binary64 :=
  let (negative, rest) := cutSign s
  readUnsigned value? negative rest

end Egress.Number
