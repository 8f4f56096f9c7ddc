import Egress.Proofs.Text.Ascii
import Egress.Text.LetterCase

/-!
# Capital letters in lower case forms

The lower case form of a text holds no capital letter of ASCII. An ASCII letter is lowered by
itself; any other letter is found in a table of shifts, and the table leads to no capital letter.

## Key results

- `isUpper_toLower`, `toLower_eq_self`: capital letters and the lower case form of a character
- `not_isUpper_of_mem_lower`: no capital letter in the lower case form of a text
- `toLower_mem_lower`: an ASCII letter is lowered by itself
-/

namespace Egress.Text

/-! ### Characters -/

/-- The capital letters, by their code points. -/
theorem isUpper_iff {c : Char} : c.isUpper = true ↔ 65 ≤ c.toNat ∧ c.toNat ≤ 90 := by
  unfold Char.isUpper
  simp only [ge_iff_le, decide_eq_true_eq, UInt32.le_iff_toNat_le]
  rfl

/-- Any other character is its own lower case form. -/
theorem toLower_eq_self {c : Char} (h : c.isUpper = false) : c.toLower = c := by
  unfold Char.toLower
  split
  · rename_i hrange
    have hupper : c.isUpper = true := isUpper_iff.2 hrange
    rw [h] at hupper
    cases hupper
  · rfl

/-- Capital letters are ASCII. -/
theorem lt_of_isUpper {c : Char} (h : c.isUpper = true) : c.toNat < 0x80 := by
  have := (isUpper_iff.1 h).2
  omega

/-- A character that was lowered is no capital letter. -/
theorem isUpper_toLower (c : Char) : c.toLower.isUpper = false := by
  cases h : c.isUpper with
  | false => rw [toLower_eq_self h, h]
  | true => exact of_ascii (P := fun c => c.toLower.isUpper = false) (by decide) (lt_of_isUpper h)

/-- Lowering twice is lowering once. -/
theorem map_toLower_map_toLower (s : List Char) :
    (s.map Char.toLower).map Char.toLower = s.map Char.toLower := by
  rw [List.map_map]
  exact List.map_congr_left fun c _ => toLower_eq_self (isUpper_toLower c)

/-! ### The table of shifts -/

-- the table is one long text, read by recursion on its characters
set_option maxRecDepth 100000 in
/-- The shifts lead behind the capital letters. -/
private theorem lowerShifts_image :
    (lowerShifts.entries.all fun e => 0x61 ≤ e.2.2.image) = true := by
  unfold lowerShifts
  refine CodeMap.all_entries_ofText ?_
  decide +kernel

/-- No code point behind ASCII is shifted to a capital letter. -/
theorem lt_shifted {n : Nat} (h : 0x80 ≤ n) : 90 < shifted lowerShifts n := by
  rw [shifted]
  split
  · rename_i lo hi shift hentry
    have hmem := Array.mem_of_find?_eq_some hentry
    have himage : 0x61 ≤ shift.image := by
      simpa using Array.all_eq_true_iff_forall_mem.1 lowerShifts_image _ hmem
    split <;> omega
  · omega

/-! ### Texts -/

/-- A character given by a code point behind the capital letters is none of them. -/
private theorem not_isUpper_ofNat {n : Nat} (h : 90 < n) : (Char.ofNat n).isUpper = false := by
  rw [Bool.eq_false_iff, ne_eq, isUpper_iff]
  by_cases hvalid : n.isValidChar
  · have hback : (Char.ofNat n).toNat = n := congrArg Char.toNat (dif_pos hvalid)
    omega
  · have hnone : (Char.ofNat n).toNat = 0 := congrArg Char.toNat (dif_neg hvalid)
    omega

/-- What a character is lowered to holds no capital letter, whatever stands around it. -/
theorem not_isUpper_of_mem_lowerChar {before after : List Char} {d c : Char}
    (h : c ∈ lowerChar before d after) : c.isUpper = false := by
  rw [lowerChar] at h
  split at h
  · rw [List.mem_singleton] at h
    exact h ▸ isUpper_toLower d
  · rename_i hascii
    split at h
    -- The two characters of the dotted capital I.
    · simp only [List.mem_cons, List.not_mem_nil, or_false] at h
      rcases h with rfl | rfl <;> decide
    · split at h
      · rw [List.mem_singleton] at h
        subst h
        -- A capital sigma becomes one of two small letters, by where it stands.
        exact not_isUpper_ofNat (by split <;> decide)
      · rw [List.mem_singleton] at h
        exact h ▸ not_isUpper_ofNat (lt_shifted (by omega))

/-- The lower case form of a text holds no capital letter. -/
theorem not_isUpper_of_mem_lower {s : List Char} {c : Char} (h : c ∈ lower s) :
    c.isUpper = false := by
  -- The text before a character is carried along, so the induction is over every such text.
  have hfrom : ∀ after before, c ∈ lowerFrom before after → c.isUpper = false := by
    intro after
    induction after with
    | nil =>
      intro before h
      cases h
    | cons d rest ih =>
      intro before h
      rcases List.mem_append.1 h with h | h
      · exact not_isUpper_of_mem_lowerChar h
      · exact ih _ h
  rw [lower] at h
  split at h
  · obtain ⟨d, _, rfl⟩ := List.mem_map.1 h
    exact isUpper_toLower d
  · exact hfrom s [] h

/-- An ASCII character of a text is lowered by itself, whatever stands around it. -/
theorem toLower_mem_lower {s : List Char} {c : Char} (h : c ∈ s) (hascii : c.toNat < 0x80) :
    c.toLower ∈ lower s := by
  -- The text before is carried along here too.
  have hfrom : ∀ after before, c ∈ after → c.toLower ∈ lowerFrom before after := by
    intro after
    induction after with
    | nil =>
      intro before h
      cases h
    | cons d rest ih =>
      intro before h
      rw [lowerFrom, List.mem_append]
      rcases List.mem_cons.1 h with rfl | h
      · left
        rw [lowerChar, if_pos hascii]
        exact List.mem_singleton_self _
      · exact .inr (ih _ h)
  rw [lower]
  split
  · exact List.mem_map_of_mem h
  · exact hfrom s [] h

end Egress.Text
