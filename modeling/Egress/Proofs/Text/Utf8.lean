import Egress.Text.Utf8

/-!
# Reading UTF-8 back

The first byte of a character says how many bytes follow and between which bounds the second one
lies; every later byte adds six bits to the value. The decoder that reads the bytes of a character
is therefore between characters again, with that character read, and so the bytes of a text are
read as the text.

## Key results

- `Utf8Decoder.foldl_feed_encodeChar`: the bytes of one character
- `decodeUtf8Lossy_encodeUtf8`: the bytes of a text
-/

namespace Egress.Text

/-- The bytes of a text are those of its characters. -/
theorem encodeUtf8_cons (c : Char) (s : List Char) :
    encodeUtf8 (c :: s) = encodeChar c ++ encodeUtf8 s :=
  List.flatMap_cons

namespace Utf8Decoder

variable {done : List (Option Char)} {n value owed lo hi : Nat}

/-- A byte between characters. -/
private theorem feed_start (hn : n < 256) :
    (⟨done, none⟩ : Utf8Decoder).feed (UInt8.ofNat n) = start done n := by
  have hbyte : (UInt8.ofNat n).toNat = n := UInt8.toNat_ofNat_of_lt' hn
  simp only [feed, hbyte]

/-- A byte that adds six bits to a character, and is not its last. -/
private theorem feed_inner (hn : n < 256) (hlo : lo ≤ n) (hhi : n ≤ hi) :
    (⟨done, some (value, owed + 2, lo, hi)⟩ : Utf8Decoder).feed (UInt8.ofNat n) =
      ⟨done, some (value * 64 + (n - 0x80), owed + 1, 0x80, 0xBF)⟩ := by
  have hbyte : (UInt8.ofNat n).toNat = n := UInt8.toNat_ofNat_of_lt' hn
  simp only [feed, hbyte, hlo, hhi, and_self, if_true]
  simp

/-- The last byte of a character. -/
private theorem feed_last (hn : n < 256) (hlo : lo ≤ n) (hhi : n ≤ hi) :
    (⟨done, some (value, 1, lo, hi)⟩ : Utf8Decoder).feed (UInt8.ofNat n) =
      ⟨some (Char.ofNat (value * 64 + (n - 0x80))) :: done, none⟩ := by
  have hbyte : (UInt8.ofNat n).toNat = n := UInt8.toNat_ofNat_of_lt' hn
  simp only [feed, hbyte, hlo, hhi, and_self, if_true]

/-- The first of two bytes. -/
private theorem start_two {v : Nat} (hmin : 0x7F < v) (hmax : v ≤ 0x7FF) :
    start done (v / 64 % 32 + 192) = ⟨done, some (v / 64, 1, 0x80, 0xBF)⟩ := by
  have hvalue : v / 64 % 32 + 192 - 0xC0 = v / 64 := by omega
  rw [start, if_neg (by omega), if_neg (by omega), if_pos (by omega), hvalue]

/-- The first of three bytes. The bounds of the second one leave out surrogates and what two bytes
would do for. -/
private theorem start_three (done : List (Option Char)) {v : Nat} (hmin : 0x7FF < v)
    (hmax : v ≤ 0xFFFF) (hvalid : v < 0xD800 ∨ 0xDFFF < v) :
    ∃ lo hi, start done (v / 4096 % 16 + 224) = ⟨done, some (v / 4096, 2, lo, hi)⟩ ∧
      lo ≤ v / 64 % 64 + 128 ∧ v / 64 % 64 + 128 ≤ hi := by
  -- The first byte is not ASCII, no continuation, and not the first of two.
  rw [start, if_neg (by omega), if_neg (by omega), if_neg (by omega)]
  split
  · have hzero : v / 4096 = 0 := by omega
    exact ⟨0xA0, 0xBF, by rw [hzero], by omega, by omega⟩
  -- The two first bytes with bounds of their own are those of zero and of thirteen.
  · split
    · have hvalue : v / 4096 = 0xD := by omega
      exact ⟨0x80, 0x9F, by rw [hvalue], by omega, by omega⟩
    · have hvalue : v / 4096 % 16 + 224 - 0xE0 = v / 4096 := by omega
      rw [if_pos (by omega), hvalue]
      exact ⟨0x80, 0xBF, rfl, by omega, by omega⟩

/-- The first of four bytes. -/
private theorem start_four (done : List (Option Char)) {v : Nat} (hmin : 0xFFFF < v)
    (hmax : v < 0x110000) :
    ∃ lo hi, start done (v / 262144 % 8 + 240) = ⟨done, some (v / 262144, 3, lo, hi)⟩ ∧
      lo ≤ v / 4096 % 64 + 128 ∧ v / 4096 % 64 + 128 ≤ hi := by
  -- The first byte is not ASCII, no continuation, and not the first of two or three.
  rw [start, if_neg (by omega), if_neg (by omega), if_neg (by omega), if_neg (by omega),
    if_neg (by omega), if_neg (by omega)]
  split
  · have hzero : v / 262144 = 0 := by omega
    exact ⟨0x90, 0xBF, by rw [hzero], by omega, by omega⟩
  -- The two first bytes with bounds of their own are those of zero and of four.
  · split
    · have hvalue : v / 262144 % 8 + 240 - 0xF0 = v / 262144 := by omega
      rw [hvalue]
      exact ⟨0x80, 0xBF, rfl, by omega, by omega⟩
    · have hvalue : v / 262144 = 4 := by omega
      rw [if_pos (by omega), hvalue]
      exact ⟨0x80, 0x8F, rfl, by omega, by omega⟩

/-- The bytes of a character are read as that character. -/
theorem foldl_feed_encodeChar (c : Char) :
    (encodeChar c).foldl feed ⟨done, none⟩ = ⟨some c :: done, none⟩ := by
  have hvalid : c.toNat < 0xD800 ∨ (0xDFFF < c.toNat ∧ c.toNat < 0x110000) := c.valid
  have hback : Char.ofNat c.toNat = c := Char.ofNat_toNat c
  -- the value of the character, as it is put together from its bytes
  generalize hv : c.toNat = v at hvalid hback
  have hbytes : encodeChar c = if v ≤ 127 then [UInt8.ofNat v]
      else if v ≤ 2047 then [UInt8.ofNat (v / 64 % 32 + 192), UInt8.ofNat (v % 64 + 128)]
      else if v ≤ 65535 then [UInt8.ofNat (v / 4096 % 16 + 224),
        UInt8.ofNat (v / 64 % 64 + 128), UInt8.ofNat (v % 64 + 128)]
      else [UInt8.ofNat (v / 262144 % 8 + 240), UInt8.ofNat (v / 4096 % 64 + 128),
        UInt8.ofNat (v / 64 % 64 + 128), UInt8.ofNat (v % 64 + 128)] := by
    rw [← hv]
    rfl
  rw [hbytes]
  split
  · rw [List.foldl_cons, feed_start (by omega), start, if_pos (by omega), hback]
    rfl
  · split
    · have hvalue : v / 64 * 64 + (v % 64 + 128 - 0x80) = v := by omega
      rw [List.foldl_cons, feed_start (by omega), start_two (by omega) (by omega),
        List.foldl_cons, feed_last (by omega) (by omega) (by omega), hvalue, hback]
      rfl
    · split
      · have hvalue : (v / 4096 * 64 + (v / 64 % 64 + 128 - 0x80)) * 64 +
            (v % 64 + 128 - 0x80) = v := by omega
        obtain ⟨lo, hi, hstart, hlo, hhi⟩ :=
          start_three done (show 0x7FF < v by omega) (by omega) (by omega)
        rw [List.foldl_cons, feed_start (by omega), hstart, List.foldl_cons,
          feed_inner (by omega) hlo hhi, List.foldl_cons,
          feed_last (by omega) (by omega) (by omega), hvalue, hback]
        rfl
      · have hvalue : ((v / 262144 * 64 + (v / 4096 % 64 + 128 - 0x80)) * 64 +
            (v / 64 % 64 + 128 - 0x80)) * 64 + (v % 64 + 128 - 0x80) = v := by omega
        obtain ⟨lo, hi, hstart, hlo, hhi⟩ :=
          start_four done (show 0xFFFF < v by omega) (by omega)
        rw [List.foldl_cons, feed_start (by omega), hstart, List.foldl_cons,
          feed_inner (by omega) hlo hhi, List.foldl_cons,
          feed_inner (by omega) (by omega) (by omega), List.foldl_cons,
          feed_last (by omega) (by omega) (by omega), hvalue, hback]
        rfl

/-- The bytes of a text are read as its characters. -/
theorem foldl_feed_encodeUtf8 (s : List Char) :
    (encodeUtf8 s).foldl feed ⟨done, none⟩ = ⟨(s.map some).reverse ++ done, none⟩ := by
  induction s generalizing done with
  | nil => rfl
  | cons c rest ih =>
    rw [encodeUtf8_cons, List.foldl_append, foldl_feed_encodeChar, ih]
    simp

end Utf8Decoder

/-- The bytes of a text stand for the text. -/
theorem decodeUtf8Lossy_encodeUtf8 (s : List Char) : decodeUtf8Lossy (encodeUtf8 s) = s := by
  rw [decodeUtf8Lossy, decodeParts, Utf8Decoder.foldl_feed_encodeUtf8]
  simp [Utf8Decoder.finish, Function.comp_def]

end Egress.Text
