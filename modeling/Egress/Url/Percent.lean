import Egress.Text.CodeTable
import Egress.Text.Utf8

/-! # Percent encoding

Characters that a component may not hold are written as `%` and two hexadecimal digits for each of
their bytes. The percent sign itself is left alone everywhere, so what is encoded already stays as
it is.

* `encode safe`   writes every character that is not `safe` by its bytes
* `decode`        reads the bytes back
* `userinfoSafe`, `pathSafe`, `querySafe`, `fragmentSafe`, `hostSafe`   the safe sets -/

namespace Egress.Url

open Egress.Text

/-- The upper case hexadecimal digit of a value below sixteen. -/
def upperHexDigit (d : Nat) : Char :=
  if d < 10 then Char.ofNat (48 + d) else Char.ofNat (55 + d)

/-- A byte as a percent sign and two digits. -/
def percentByte (b : UInt8) : List Char :=
  ['%', upperHexDigit (b.toNat / 16), upperHexDigit (b.toNat % 16)]

/-- The letters, digits and marks that no component needs to encode. -/
def isUnreserved (c : Char) : Bool :=
  c.isAlphanum || c = '-' || c = '.' || c = '_' || c = '~'

/-- Writes every character that is not safe by its bytes. -/
def encode (safe : Char → Bool) (s : List Char) : List Char :=
  s.flatMap fun c => if safe c then [c] else (encodeChar c).flatMap percentByte

/-- A text of safe characters is its own encoding. -/
theorem encode_of_all {safe : Char → Bool} {s : List Char} (h : ∀ c ∈ s, safe c = true) :
    encode safe s = s := by
  induction s with
  | nil => rfl
  | cons c s ih =>
    have hc := h c (by simp)
    have hs := ih fun d hd => h d (by simp [hd])
    simp only [encode] at hs ⊢
    simp [hc, hs]

/-- Printable ASCII without the characters listed. -/
def printableExcept (excluded : String) (c : Char) : Bool :=
  0x20 < c.toNat && c.toNat < 0x7F && !excluded.toList.contains c

/-- What stands as it is in a query. -/
def querySafe : Char → Bool := printableExcept "\"#<>"

/-- What stands as it is in a fragment. -/
def fragmentSafe : Char → Bool := printableExcept "\"<>`"

/-- What stands as it is in a path. -/
def pathSafe : Char → Bool := printableExcept "\"#<>?`\x7b\x7d"

/-- What stands as it is in the part of an authority before the at sign. -/
def userinfoSafe : Char → Bool := printableExcept "\"#<>?`\x7b\x7d/;=@[\\]^|"

/-- What stands as it is in an ASCII host. -/
def hostSafe (c : Char) : Bool :=
  isUnreserved c || "!$&'()*+,;=\"`\x7b\x7d%|\\".toList.contains c

/-- The bytes of an ASCII text, where a percent sign before two digits is the byte they name. -/
def percentBytes : List Char → List UInt8
  | [] => []
  | '%' :: a :: b :: rest =>
    match hexValue? a, hexValue? b with
    | some x, some y => UInt8.ofNat (16 * x + y) :: percentBytes rest
    | _, _ => 37 :: percentBytes (a :: b :: rest)
  | c :: rest => encodeChar c ++ percentBytes rest
termination_by s => s.length

/-- The text that an encoded text stands for. -/
def decode (s : List Char) : List Char :=
  if s.contains '%' then decodeUtf8Lossy (percentBytes s) else s

end Egress.Url
