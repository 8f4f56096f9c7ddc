/-!
# ASCII characters

There are few ASCII characters, so what is said of all of them can be checked one by one. The lemmas
here lead from such a check to any character of which it is known that it is ASCII.

## Key results

- `of_ascii`: what holds of the ASCII characters one by one holds of an ASCII character
- `eq_of_ascii`: tests that only ASCII characters pass are the same if they agree on these
-/

namespace Egress.Text

/-- What holds of the ASCII characters one by one holds of an ASCII character. -/
theorem of_ascii {P : Char → Prop} (h : ∀ n : Fin 0x80, P (Char.ofNat n)) {c : Char}
    (hc : c.toNat < 0x80) : P c := by
  have hone := h ⟨c.toNat, hc⟩
  rwa [Char.ofNat_toNat] at hone

/-- Two tests of characters that only ASCII characters pass are the same if they agree on these. -/
theorem eq_of_ascii {p q : Char → Bool} (hp : ∀ c, p c = true → c.toNat < 0x80)
    (hq : ∀ c, q c = true → c.toNat < 0x80)
    (h : ∀ n : Fin 0x80, p (Char.ofNat n) = q (Char.ofNat n)) (c : Char) : p c = q c := by
  by_cases hascii : c.toNat < 0x80
  · exact of_ascii (P := fun c => p c = q c) h hascii
  · have hnot : ∀ t : Char → Bool, (∀ c, t c = true → c.toNat < 0x80) → t c = false :=
      fun t ht => Bool.eq_false_iff.2 fun hc => hascii (ht c hc)
    rw [hnot p hp, hnot q hq]

/-- Characters of a list of ASCII characters are ASCII. -/
theorem lt_of_contains {l : List Char} (hl : (l.all fun c => c.toNat < 0x80) = true)
    (c : Char) (hc : l.contains c = true) : c.toNat < 0x80 := by
  simpa using List.all_eq_true.1 hl c (List.contains_iff_mem.1 hc)

end Egress.Text
