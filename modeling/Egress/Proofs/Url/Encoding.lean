import Egress.Proofs.Text.Ascii
import Egress.Url.Parse

/-!
# What percent encoding leaves

The encoding of a text consists of safe characters and of escapes. Escapes are written with the
percent sign and upper case hexadecimal digits, which every safe set of a URL holds, so an encoded
text consists of safe characters only.

## Key results

- `mem_encode`: a character of an encoding is a safe character of the text or one of an escape
- `safe_of_mem_encode`: every character of an encoding is safe
- `userinfoSafe_no_delimiter` and its companions: what the safe sets leave out
-/

namespace Egress.Url

open Egress.Text

/-- The characters that escapes are written with. -/
def escapeChars : List Char := "%0123456789ABCDEF".toList

/-- Every character of an escape is safe. -/
def HoldsEscapes (safe : Char → Bool) : Prop := escapeChars.all safe = true

/-! ### Encodings -/

/-- An upper case hexadecimal digit is a character of escapes. -/
private theorem upperHexDigit_mem {d : Nat} (h : d < 16) : upperHexDigit d ∈ escapeChars := by
  have all : ∀ d : Fin 16, upperHexDigit d.val ∈ escapeChars := by decide
  exact all ⟨d, h⟩

/-- An escape consists of the characters of escapes. -/
private theorem mem_percentByte {b : UInt8} {c : Char} (h : c ∈ percentByte b) :
    c ∈ escapeChars := by
  have hb : b.toNat < 256 := b.toNat_lt
  simp only [percentByte, List.mem_cons, List.not_mem_nil, or_false] at h
  rcases h with rfl | rfl | rfl
  · decide
  · exact upperHexDigit_mem (by omega)
  · exact upperHexDigit_mem (by omega)

/-- A character of an encoding is a safe character of the text or one of an escape. -/
theorem mem_encode {safe : Char → Bool} {s : List Char} {c : Char} (h : c ∈ encode safe s) :
    (c ∈ s ∧ safe c = true) ∨ c ∈ escapeChars := by
  simp only [encode, List.mem_flatMap] at h
  obtain ⟨d, hd, hc⟩ := h
  split at hc
  · rename_i hsafe
    have heq : c = d := by simpa using hc
    exact .inl ⟨heq ▸ hd, heq ▸ hsafe⟩
  · obtain ⟨b, _, hb⟩ := List.mem_flatMap.1 hc
    exact .inr (mem_percentByte hb)

/-- An encoded text holds safe characters only, where those of escapes are safe. -/
theorem safe_of_mem_encode {safe : Char → Bool} (hsafe : HoldsEscapes safe) {s : List Char}
    {c : Char} (h : c ∈ encode safe s) : safe c = true := by
  rcases mem_encode h with ⟨_, hc⟩ | hc
  · exact hc
  · exact List.all_eq_true.1 hsafe c hc

theorem encode_nil (safe : Char → Bool) : encode safe [] = [] := rfl

/-- Only the empty text has an empty encoding. -/
theorem encode_eq_nil {safe : Char → Bool} {s : List Char} : encode safe s = [] ↔ s = [] := by
  constructor
  · intro h
    cases s with
    | nil => rfl
    | cons c rest =>
      simp only [encode, List.flatMap_cons, List.append_eq_nil_iff] at h
      obtain ⟨hc, _⟩ := h
      split at hc
      · cases hc
      -- A character has a byte, and the byte an escape.
      · have hne : encodeChar c ≠ [] := by
          intro he
          have := String.length_utf8EncodeChar c
          rw [show String.utf8EncodeChar c = [] from he] at this
          have := c.utf8Size_pos
          simp at *
          omega
        cases hb : encodeChar c with
        | nil => exact absurd hb hne
        | cons b bs => rw [hb] at hc; simp [percentByte] at hc
  · rintro rfl
    rfl

/-- The encoding of a text is that of its parts. -/
theorem encode_append (safe : Char → Bool) (s t : List Char) :
    encode safe (s ++ t) = encode safe s ++ encode safe t := by
  simp [encode]

/-- The encoding of a text is that of its characters. -/
theorem encode_cons (safe : Char → Bool) (c : Char) (s : List Char) :
    encode safe (c :: s) = encode safe [c] ++ encode safe s :=
  encode_append safe [c] s

/-! ### The safe sets -/

theorem userinfoSafe_escapes : HoldsEscapes userinfoSafe := by unfold HoldsEscapes; decide

theorem pathSafe_escapes : HoldsEscapes pathSafe := by unfold HoldsEscapes; decide

theorem querySafe_escapes : HoldsEscapes querySafe := by unfold HoldsEscapes; decide

theorem fragmentSafe_escapes : HoldsEscapes fragmentSafe := by unfold HoldsEscapes; decide

theorem hostSafe_escapes : HoldsEscapes hostSafe := by unfold HoldsEscapes; decide

/-- Printable ASCII holds no control character. -/
theorem printableExcept_no_control {excluded : String} {c : Char}
    (h : printableExcept excluded c = true) : isControl c = false ∧ c.toNat < 0x80 := by
  simp only [printableExcept, Bool.and_eq_true, decide_eq_true_eq] at h
  simp only [isControl, Bool.or_eq_false_iff, decide_eq_false_iff_not]
  omega

/-- A character that is excluded is not safe. -/
theorem ne_of_printableExcept {excluded : String} {c d : Char}
    (h : printableExcept excluded c = true) (hd : excluded.toList.contains d = true) : c ≠ d := by
  rintro rfl
  rw [printableExcept, hd] at h
  simp at h

/-- No delimiter of a URL or of an authority's user information is safe in user information. -/
theorem userinfoSafe_no_delimiter {c : Char} (h : userinfoSafe c = true) :
    c ≠ '@' ∧ endsAuthority c = false := by
  have hne : ∀ d, ("\"#<>?`\x7b\x7d/;=@[\\]^|".toList.contains d) = true → c ≠ d :=
    fun d hd => ne_of_printableExcept h hd
  refine ⟨hne _ (by decide), ?_⟩
  simp [endsAuthority, hne '/' (by decide), hne '?' (by decide), hne '#' (by decide)]

/-- Neither the question mark nor the hash sign is safe in a path. -/
theorem pathSafe_no_delimiter {c : Char} (h : pathSafe c = true) : c ≠ '?' ∧ c ≠ '#' :=
  ⟨ne_of_printableExcept h (by decide), ne_of_printableExcept h (by decide)⟩

/-- The hash sign is not safe in a query. -/
theorem querySafe_no_delimiter {c : Char} (h : querySafe c = true) : c ≠ '#' :=
  ne_of_printableExcept h (by decide)

/-! ### Characters of host names -/

/-- The letters and digits, by their code points. -/
theorem isAlphanum_iff {c : Char} : c.isAlphanum = true ↔
    (48 ≤ c.toNat ∧ c.toNat ≤ 57) ∨ (65 ≤ c.toNat ∧ c.toNat ≤ 90) ∨
      (97 ≤ c.toNat ∧ c.toNat ≤ 122) := by
  unfold Char.isAlphanum Char.isAlpha Char.isUpper Char.isLower Char.isDigit
  simp only [Bool.or_eq_true, Bool.and_eq_true, decide_eq_true_eq, UInt32.le_iff_toNat_le,
    ge_iff_le]
  show ((65 ≤ c.toNat ∧ c.toNat ≤ 90) ∨ (97 ≤ c.toNat ∧ c.toNat ≤ 122)) ∨
    (48 ≤ c.toNat ∧ c.toNat ≤ 57) ↔ _
  omega

/-- A character that is safe in a host is printable ASCII, no delimiter of an authority, and opens
no bracket. -/
theorem hostSafe_no_delimiter {c : Char} (h : hostSafe c = true) :
    c.toNat < 0x80 ∧ isControl c = false ∧ endsAuthority c = false ∧ c ≠ '@' ∧ c ≠ ':' ∧
      c ≠ '[' ∧ c ≠ ']' := by
  simp only [hostSafe, Bool.or_eq_true] at h
  rcases h with h | h
  · simp only [isUnreserved, Bool.or_eq_true, decide_eq_true_eq] at h
    rcases h with (((h | rfl) | rfl) | rfl) | rfl
    -- A letter or digit is no delimiter.
    · have hb := isAlphanum_iff.1 h
      have hne : ∀ d : Char, d.isAlphanum = false → c ≠ d := by
        rintro d hd rfl
        rw [h] at hd
        cases hd
      refine ⟨by omega, ?_, ?_, hne _ (by decide), hne _ (by decide), hne _ (by decide),
        hne _ (by decide)⟩
      · simp only [isControl, Bool.or_eq_false_iff, decide_eq_false_iff_not]
        omega
      · simp [endsAuthority, hne '/' (by decide), hne '?' (by decide), hne '#' (by decide)]
    all_goals decide
  -- The punctuation is a short list, each member of which is looked at.
  · have all : ("!$&'()*+,;=\"`\x7b\x7d%|\\".toList.all fun d => decide (d.toNat < 0x80) &&
        !isControl d && !endsAuthority d && d != '@' && d != ':' && d != '[' && d != ']') =
        true := by decide
    have hone := List.all_eq_true.1 all c (by simpa using h)
    simp only [Bool.and_eq_true, decide_eq_true_eq, Bool.not_eq_true', bne_iff_ne] at hone
    obtain ⟨⟨⟨⟨⟨⟨hascii, hcontrol⟩, hend⟩, hat⟩, hcolon⟩, hopen⟩, hclose⟩ := hone
    exact ⟨hascii, hcontrol, hend, hat, hcolon, hopen, hclose⟩

/-- What holds of the unreserved characters one by one holds of an unreserved character. -/
theorem of_isUnreserved {P : Char → Prop}
    (h : ∀ n : Fin 0x80, isUnreserved (Char.ofNat n) = true → P (Char.ofNat n)) {c : Char}
    (hc : isUnreserved c = true) : P c := by
  have hascii : c.toNat < 0x80 := (hostSafe_no_delimiter (by simp [hostSafe, hc])).1
  exact of_ascii (P := fun c => isUnreserved c = true → P c) h hascii hc

/-- An unreserved character is safe in a path and in a query. -/
theorem safe_of_isUnreserved {c : Char} (h : isUnreserved c = true) :
    pathSafe c = true ∧ querySafe c = true :=
  of_isUnreserved (P := fun c => pathSafe c = true ∧ querySafe c = true) (by decide +kernel) h

end Egress.Url
