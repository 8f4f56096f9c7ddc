import Mathlib.Data.List.DropRight
import Egress.Text.Blank

/-!
# Trimmed texts

Trimming removes the blanks at both ends of a text and nothing else. `IsTrimmed` says by the first
and the last character that there is nothing to remove, so that it can be told whether a text is
what trimming leaves of some text.

## Key results

- `trim_eq_nil_iff`: the texts of which nothing is left
- `trim_eq_iff`: a text is what is left of it, trimmed, between blanks
-/

namespace Egress.Text

/-- A text of blanks only. -/
def IsBlanks (s : List Char) : Prop := ∀ c ∈ s, isBlank c = true

theorem isBlanks_nil : IsBlanks [] := nofun

/-- A text that neither starts nor ends with a blank. -/
structure IsTrimmed (s : List Char) : Prop where
  first : ∀ c ∈ s.head?, isBlank c = false
  last : ∀ c ∈ s.getLast?, isBlank c = false

variable {s before after : List Char}

/-- Trimming drops blanks at the front, then at the back. -/
theorem trim_eq_rdropWhile (s : List Char) :
    trim s = (s.dropWhile isBlank).rdropWhile isBlank := rfl

/-- Nothing is left of blanks, and something of every other text. -/
theorem trim_eq_nil_iff : trim s = [] ↔ IsBlanks s := by
  constructor
  · intro h c hc
    rw [trim_eq_rdropWhile, List.rdropWhile_eq_nil_iff] at h
    rw [← List.takeWhile_append_dropWhile (p := isBlank) (l := s), List.mem_append] at hc
    rcases hc with hc | hc
    · exact List.all_eq_true.1 List.all_takeWhile c hc
    · exact h c hc
  · intro h
    rw [trim_eq_rdropWhile, List.dropWhile_eq_nil_iff.2 h, List.rdropWhile_nil]

/-- What trimming leaves is trimmed. -/
theorem isTrimmed_trim (s : List Char) : IsTrimmed (trim s) where
  first c hc := by
    -- what is left begins like the text without the blanks in front
    obtain ⟨removed, hs⟩ := List.rdropWhile_prefix isBlank (s.dropWhile isBlank)
    have hhead : c ∈ (s.dropWhile isBlank).head? := by
      rw [← hs, List.head?_append, ← trim_eq_rdropWhile, Option.mem_def.1 hc]
      rfl
    have hnot := List.head?_dropWhile_not isBlank s
    rw [Option.mem_def.1 hhead] at hnot
    simpa using hnot
  last c hc := by
    have hne : trim s ≠ [] := by
      intro h
      rw [h] at hc
      cases hc
    rw [List.getLast?_eq_getLast_of_ne_nil hne, Option.mem_some_iff] at hc
    have hnot := List.rdropWhile_last_not isBlank (s.dropWhile isBlank) hne
    rw [← hc]
    exact Bool.eq_false_iff.2 hnot

/-- A trimmed text between blanks is what trimming leaves. -/
theorem trim_between (hbefore : IsBlanks before) (hs : IsTrimmed s) (hafter : IsBlanks after) :
    trim (before ++ s ++ after) = s := by
  cases s with
  | nil =>
    rw [trim_eq_nil_iff, List.append_nil]
    exact fun c hc => (List.mem_append.1 hc).elim (hbefore c) (hafter c)
  | cons c rest =>
    -- Blanks are dropped up to the first character of the text.
    have hfront : (before ++ (c :: rest) ++ after).dropWhile isBlank = (c :: rest) ++ after := by
      rw [List.append_assoc, List.dropWhile_append_of_pos hbefore, List.cons_append,
        List.dropWhile_cons_of_neg (by simp [hs.first c rfl])]
    -- From behind, they are dropped up to the last one.
    have hback : ((c :: rest) ++ after).rdropWhile isBlank = (c :: rest).rdropWhile isBlank := by
      have hreverse : ∀ d ∈ after.reverse, isBlank d = true :=
        fun d hd => hafter d (List.mem_reverse.1 hd)
      rw [List.rdropWhile, List.reverse_append, List.dropWhile_append_of_pos hreverse,
        List.rdropWhile]
    rw [trim_eq_rdropWhile, hfront, hback, List.rdropWhile_eq_self_iff]
    intro hne
    simp [hs.last _ (List.getLast?_eq_getLast_of_ne_nil hne)]

/-- Trimming leaves a trimmed text that stood between blanks, and every such text. -/
theorem trim_eq_iff {t : List Char} : trim s = t ↔
    IsTrimmed t ∧ ∃ before after, IsBlanks before ∧ IsBlanks after ∧ s = before ++ t ++ after := by
  constructor
  · rintro rfl
    refine ⟨isTrimmed_trim s, s.takeWhile isBlank, (s.dropWhile isBlank).rtakeWhile isBlank,
      List.all_eq_true.1 List.all_takeWhile, fun c hc => List.mem_rtakeWhile_imp hc, ?_⟩
    rw [trim_eq_rdropWhile, List.append_assoc, List.rdropWhile_append_rtakeWhile,
      List.takeWhile_append_dropWhile]
  · rintro ⟨ht, before, after, hbefore, hafter, rfl⟩
    exact trim_between hbefore ht hafter

end Egress.Text
