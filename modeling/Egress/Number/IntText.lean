import Egress.Number.Digit
import Egress.Text.Blank

/-! # Integers in texts

An integer is written by digits, with an optional sign before them and single underscores between
them. A text of more digits than `digitLimit` is refused, however small its value.

* `readInt`       digits of any script, blanks around
* `readDecimal`   ASCII digits, white space around, and perhaps a fraction of zeros -/

namespace Egress.Number

open Egress.Text

/-- The most digits that a text may have. -/
def digitLimit : Nat := 4300

/-- The least number with more digits. -/
def digitBound : Nat := Nat.pow 10 digitLimit

/-- What is wrong with the text of an integer. -/
inductive IntFault where
  | malformed
  -- It has this many digits, which are too many.
  | tooLong (digits : Nat)
  deriving DecidableEq, Repr

/-- The values of the digits in a text where single underscores stand between digits only. -/
def digitsOf (value? : Char → Option Nat) (s : List Char) : Option (List Nat) :=
  let groups := splitBy (· = '_') s
  if groups.any List.isEmpty then none else groups.flatten.mapM value?

/-- The number with these decimal digits. -/
def ofDigits (digits : List Nat) : Nat := digits.foldl (fun n d => 10 * n + d) 0

/-- A sign, and what follows it; no sign counts as plus. -/
def cutSign (s : List Char) : Bool × List Char :=
  match s with
  | '-' :: rest => (true, rest)
  | '+' :: rest => (false, rest)
  | _ => (false, s)

/-- The integer of a sign and a size. -/
def signed (negative : Bool) (n : Nat) : Int := if negative then -n else n

/-- The integer that a text of a sign and digits stands for. -/
def readSigned (value? : Char → Option Nat) (s : List Char) : Except IntFault Int :=
  let (negative, rest) := cutSign s
  match digitsOf value? rest with
  | none => .error .malformed
  | some digits =>
    if digits.length > digitLimit then .error (.tooLong digits.length)
    else .ok (signed negative (ofDigits digits))

/-- The integer that a text stands for, between blanks and in digits of any script. -/
def readInt (s : List Char) : Except IntFault Int := readSigned digitValue? (trim s)

/-- A text without the zeros and underscores before its first other digit. -/
def dropZeros (s : List Char) : List Char :=
  match s with
  | '0' :: rest =>
    match rest.dropWhile fun c => c = '0' || c = '_' with
    | [] => if s.getLast? = some '0' then ['0'] else s
    | c :: more => if c.isDigit then c :: more else s
  | _ => s

/-- A text without the fraction at its end, if that consists of zeros. -/
def dropFraction (s : List Char) : List Char :=
  let fraction := (s.dropWhile (· != '.')).drop 1
  if fraction ≠ [] ∧ fraction.all (· = '0') then s.takeWhile (· != '.') else s

/-- The integer that a decimal text stands for, between white space; a fraction of zeros and
zeros in front do not count as digits. -/
def readDecimal (s : List Char) : Except IntFault Int :=
  let (negative, rest) := cutSign (trimBy isSpace s)
  match readSigned asciiDigit? ('+' :: dropZeros (dropFraction rest)) with
  | .ok n => .ok (if negative then -n else n)
  | .error e => .error e

end Egress.Number
