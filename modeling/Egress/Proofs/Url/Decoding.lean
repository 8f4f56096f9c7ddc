import Egress.Proofs.Text.Utf8
import Egress.Proofs.Url.Path

/-!
# Reading percent encoding back

An encoding that writes the percent sign by its bytes, as the encoding of all but unreserved
characters does, loses nothing: each escape is read as the byte that it was written for, and the
bytes are read as the text.

## Key results

- `percentBytes_encode`: the bytes of an encoded text are those of the text
- `decode_encode`: an encoded text is decoded to the text
-/

namespace Egress.Url

open Egress.Text

/-- The digits of a byte have its value. -/
private theorem hexValue?_upperHexDigit {d : Nat} (h : d < 16) :
    hexValue? (upperHexDigit d) = some d := by
  have all : ∀ d : Fin 16, hexValue? (upperHexDigit d.val) = some d.val := by decide
  exact all ⟨d, h⟩

/-- An escape is read as its byte. -/
theorem percentBytes_percentByte (b : UInt8) (rest : List Char) :
    percentBytes (percentByte b ++ rest) = b :: percentBytes rest := by
  have hb : b.toNat < 256 := b.toNat_lt
  have hvalue : 16 * (b.toNat / 16) + b.toNat % 16 = b.toNat := Nat.div_add_mod b.toNat 16
  simp only [percentByte, List.cons_append, List.nil_append]
  rw [percentBytes, hexValue?_upperHexDigit (by omega), hexValue?_upperHexDigit (by omega)]
  simp only [hvalue, UInt8.ofNat_toNat]

/-- Escapes are read as their bytes. -/
theorem percentBytes_flatMap (bytes : List UInt8) (rest : List Char) :
    percentBytes (bytes.flatMap percentByte ++ rest) = bytes ++ percentBytes rest := by
  induction bytes with
  | nil => rfl
  | cons b bytes ih =>
    rw [List.flatMap_cons, List.append_assoc, percentBytes_percentByte, ih, List.cons_append]

/-- Any character but the percent sign is read as its own bytes. -/
theorem percentBytes_cons {c : Char} (hc : c ≠ '%') (rest : List Char) :
    percentBytes (c :: rest) = encodeChar c ++ percentBytes rest := by
  rw [percentBytes]
  rintro a b more rfl
  exact absurd rfl hc

variable {safe : Char → Bool}

/-- The bytes of an encoded text are those of the text. -/
theorem percentBytes_encode (hpercent : safe '%' = false) (s : List Char) :
    percentBytes (encode safe s) = encodeUtf8 s := by
  induction s with
  | nil => simp [encode, encodeUtf8, percentBytes]
  | cons c rest ih =>
    rw [encode_cons, encodeUtf8_cons, ← ih]
    -- A safe character is no percent sign; any other is written as escapes of its bytes.
    by_cases hsafe : safe c = true
    · have hone : encode safe [c] = [c] := by simp [encode, hsafe]
      have hne : c ≠ '%' := by
        rintro rfl
        rw [hpercent] at hsafe
        cases hsafe
      rw [hone, List.singleton_append, percentBytes_cons hne]
    · have hone : encode safe [c] = (encodeChar c).flatMap percentByte := by simp [encode, hsafe]
      rw [hone, percentBytes_flatMap]

/-- An encoded text is decoded to the text. -/
theorem decode_encode (hpercent : safe '%' = false) (s : List Char) :
    decode (encode safe s) = s := by
  by_cases hescapes : '%' ∈ encode safe s
  · rw [decode, if_pos (List.contains_iff_mem.2 hescapes), percentBytes_encode hpercent,
      decodeUtf8Lossy_encodeUtf8]
  · rw [decode, if_neg (by simpa using hescapes), encode_of_no_percent hescapes]

end Egress.Url
