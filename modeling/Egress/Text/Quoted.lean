import Egress.Text.Printable

/-! # Quoted text

How a text, or a string of bytes, is shown inside a message: between single quotes, or between
double quotes when the text holds a single quote and no double one. The quote in use and the
backslash are escaped by a backslash, tab, line feed and carriage return by their letters, and
what is not printable by its hexadecimal number.

* `quoted`        a text
* `quotedCodes`   a sequence of code points
* `quotedBytes`   a string of bytes, after the letter `b` -/

namespace Egress.Text

/-- The lower case digit of a value below sixteen. -/
def hexDigit (d : Nat) : Char :=
  if d < 10 then Char.ofNat (48 + d) else Char.ofNat (87 + d)

/-- The last `width` hexadecimal digits of a number, in lower case. -/
def hexDigits (width n : Nat) : List Char :=
  (List.range width).map fun i => hexDigit (n / Nat.pow 16 (width - 1 - i) % 16)

theorem length_hexDigits (width n : Nat) : (hexDigits width n).length = width := by
  simp [hexDigits]

/-- The quote that surrounds a text with these code points. -/
def quoteFor (codes : List Nat) : Char :=
  if codes.contains 39 && !codes.contains 34 then '"' else '\''

/-- The spelling of one code point between `quote` signs, where `plain` tells what stands as it
is. -/
def escaped (quote : Char) (plain : Nat → Bool) (n : Nat) : List Char :=
  if n = quote.toNat ∨ n = 92 then ['\\', Char.ofNat n]
  else if n = 9 then ['\\', 't']
  else if n = 10 then ['\\', 'n']
  else if n = 13 then ['\\', 'r']
  else if plain n then [Char.ofNat n]
  else if n < 0x100 then '\\' :: 'x' :: hexDigits 2 n
  else if n < 0x10000 then '\\' :: 'u' :: hexDigits 4 n
  else '\\' :: 'U' :: hexDigits 8 n

/-- Code points between quotes. -/
def quotedCodes (codes : List Nat) : String :=
  let quote := quoteFor codes
  String.ofList (quote :: codes.flatMap (escaped quote isPrintable) ++ [quote])

/-- A text between quotes. -/
def quoted (s : String) : String := quotedCodes (s.toList.map Char.toNat)

/-- Bytes between quotes, after the letter `b`; only printable ASCII stands as it is. -/
def quotedBytes (data : List UInt8) : String :=
  let codes := data.map UInt8.toNat
  let quote := quoteFor codes
  String.ofList ('b' :: quote ::
    codes.flatMap (escaped quote fun n => 0x20 ≤ n && n < 0x7F) ++ [quote])

end Egress.Text
