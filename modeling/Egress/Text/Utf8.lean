/-! # UTF-8

* `encodeUtf8`       the bytes of a text
* `decodeUtf8?`      the text of well-formed bytes
* `decodeUtf8Lossy`  the text of any bytes: each longest beginning of a character that the next byte
  breaks off counts as one replacement character, and so does each byte that begins nothing -/

namespace Egress.Text

/-- The bytes of a character. -/
def encodeChar (c : Char) : List UInt8 := String.utf8EncodeChar c

/-- The bytes of a text. -/
def encodeUtf8 (s : List Char) : List UInt8 := s.flatMap encodeChar

/-- A decoder between two bytes: the text so far, reversed, with `none` for what is malformed, and
the character that is begun: its value so far, how many bytes are owed, and the range of the next
one. -/
structure Utf8Decoder where
  -- The text so far, reversed.
  done : List (Option Char)
  begun : Option (Nat × Nat × Nat × Nat)

namespace Utf8Decoder

/-- Reads a byte between characters. -/
def start (done : List (Option Char)) (b : Nat) : Utf8Decoder :=
  if b < 0x80 then ⟨some (Char.ofNat b) :: done, none⟩
  else if b < 0xC2 then ⟨none :: done, none⟩
  else if b < 0xE0 then ⟨done, some (b - 0xC0, 1, 0x80, 0xBF)⟩
  else if b = 0xE0 then ⟨done, some (0, 2, 0xA0, 0xBF)⟩
  else if b = 0xED then ⟨done, some (0xD, 2, 0x80, 0x9F)⟩
  else if b < 0xF0 then ⟨done, some (b - 0xE0, 2, 0x80, 0xBF)⟩
  else if b = 0xF0 then ⟨done, some (0, 3, 0x90, 0xBF)⟩
  else if b < 0xF4 then ⟨done, some (b - 0xF0, 3, 0x80, 0xBF)⟩
  else if b = 0xF4 then ⟨done, some (4, 3, 0x80, 0x8F)⟩
  else ⟨none :: done, none⟩

/-- Reads the next byte. -/
def feed (d : Utf8Decoder) (byte : UInt8) : Utf8Decoder :=
  let b := byte.toNat
  match d.begun with
  | none => start d.done b
  | some (value, owed, lo, hi) =>
    if lo ≤ b ∧ b ≤ hi then
      let value := value * 64 + (b - 0x80)
      if owed = 1 then ⟨some (Char.ofNat value) :: d.done, none⟩
      else ⟨d.done, some (value, owed - 1, 0x80, 0xBF)⟩
    else start (none :: d.done) b

/-- The text that was read, with `none` for what is malformed. -/
def finish (d : Utf8Decoder) : List (Option Char) :=
  (match d.begun with
    | none => d.done
    | some _ => none :: d.done).reverse

end Utf8Decoder

/-- The characters of bytes, with `none` for what is malformed. -/
def decodeParts (data : List UInt8) : List (Option Char) :=
  (data.foldl Utf8Decoder.feed ⟨[], none⟩).finish

/-- The text of well-formed bytes. -/
def decodeUtf8? (data : List UInt8) : Option (List Char) := (decodeParts data).mapM id

/-- The text of any bytes, with the replacement character for what is malformed. -/
def decodeUtf8Lossy (data : List UInt8) : List Char :=
  (decodeParts data).map fun c => c.getD (Char.ofNat 0xFFFD)

/-- The bytes as characters, one each. -/
def latin1 (data : List UInt8) : List Char := data.map fun b => Char.ofNat b.toNat

end Egress.Text
