import Egress.Text.Cut
import Egress.Text.Quoted

/-!
# Characters that stand for themselves in quoted texts

The spelling of a text between quotes goes character by character once the quote is chosen.
Printable characters other than the quotes and the backslash stand for themselves and have no part
in that choice, so a run of them can be read off the quoted text.

## Key results

- `toList_quoted`: the spelling of a text with a run of such characters
- `eq_of_quoted_append`: two such runs before an at sign are equal if the quoted texts are
-/

namespace Egress.Text

/-- Texts that begin in different ways are different. -/
theorem append_ne_append {a b : List Char} (n : Nat) (ha : n ≤ a.length) (hb : n ≤ b.length)
    (h : a.take n ≠ b.take n) (s t : List Char) : a ++ s ≠ b ++ t := by
  intro heq
  have htake := congrArg (List.take n) heq
  rw [List.take_append_of_le_length ha, List.take_append_of_le_length hb] at htake
  exact h htake

/-- A character that stands for itself between quotes, whatever the quote is. -/
structure StandsForItself (c : Char) : Prop where
  printable : isPrintable c.toNat = true
  single : c.toNat ≠ 39
  double : c.toNat ≠ 34
  backslash : c.toNat ≠ 92
  -- It is no control character.
  visible : 32 ≤ c.toNat

/-- The spelling of a text between quotes. -/
def spelled (quote : Char) (s : List Char) : List Char :=
  (s.map Char.toNat).flatMap (escaped quote isPrintable)

/-- A text is spelled out part by part. -/
theorem spelled_append (quote : Char) (s t : List Char) :
    spelled quote (s ++ t) = spelled quote s ++ spelled quote t := by
  simp [spelled]

/-- The quote is one of two characters. -/
theorem quoteFor_toNat (codes : List Nat) :
    (quoteFor codes).toNat = 34 ∨ (quoteFor codes).toNat = 39 := by
  simp only [quoteFor]
  split
  · exact .inl rfl
  · exact .inr rfl

/-- A character that stands for itself is spelled as itself, between either quotes. -/
theorem escaped_of_standsForItself {quote c : Char} (hq : quote.toNat = 34 ∨ quote.toNat = 39)
    (h : StandsForItself c) : escaped quote isPrintable c.toNat = [c] := by
  -- It is neither the quote nor a backslash.
  have hquote : ¬(c.toNat = quote.toNat ∨ c.toNat = 92) := by
    rintro (he | he)
    · rcases hq with hq | hq
      · exact h.double (he.trans hq)
      · exact h.single (he.trans hq)
    · exact h.backslash he
  have hvisible := h.visible
  rw [escaped, if_neg hquote, if_neg (by omega), if_neg (by omega), if_neg (by omega),
    if_pos h.printable, Char.ofNat_toNat]

/-- A run of characters that stand for themselves is spelled by itself. -/
theorem spelled_of_forall {quote : Char} (hq : quote.toNat = 34 ∨ quote.toNat = 39)
    {s : List Char} (h : ∀ c ∈ s, StandsForItself c) : spelled quote s = s := by
  induction s with
  | nil => rfl
  | cons c rest ih =>
    have hrest := ih fun d hd => h d (by simp [hd])
    have hone := escaped_of_standsForItself hq (h c (by simp))
    simp only [spelled, List.map_cons, List.flatMap_cons] at hrest ⊢
    rw [hone, hrest, List.singleton_append]

/-- Characters that stand for themselves have no part in the choice of the quote. -/
theorem quoteFor_append {before middle after : List Char}
    (h : ∀ c ∈ middle, StandsForItself c) :
    quoteFor ((before ++ middle ++ after).map Char.toNat) =
      quoteFor ((before ++ after).map Char.toNat) := by
  -- Only quotes take part in the choice, and none is among the characters.
  have hno : ∀ n, n = 39 ∨ n = 34 → n ∉ middle.map Char.toNat := by
    intro n hn hmem
    obtain ⟨c, hc, rfl⟩ := List.mem_map.1 hmem
    rcases hn with hn | hn
    · exact (h c hc).single hn
    · exact (h c hc).double hn
  have hcontains : ∀ n, n = 39 ∨ n = 34 →
      ((before ++ middle ++ after).map Char.toNat).contains n =
        ((before ++ after).map Char.toNat).contains n := by
    intro n hn
    rw [Bool.eq_iff_iff, List.contains_iff_mem, List.contains_iff_mem, List.map_append,
      List.map_append, List.map_append, List.mem_append, List.mem_append, List.mem_append]
    constructor
    · rintro ((hm | hm) | hm)
      · exact .inl hm
      · exact absurd hm (hno n hn)
      · exact .inr hm
    · rintro (hm | hm)
      · exact .inl (.inl hm)
      · exact .inr hm
  rw [quoteFor, quoteFor, hcontains 39 (.inl rfl), hcontains 34 (.inr rfl)]

/-- The spelling of a text with a run of characters that stand for themselves. -/
theorem toList_quoted (before after : List Char) :
    ∃ quote : Char, (quote.toNat = 34 ∨ quote.toNat = 39) ∧
      ∀ middle, (∀ c ∈ middle, StandsForItself c) →
        (quoted (String.ofList (before ++ middle ++ after))).toList =
          quote :: (spelled quote before ++ (middle ++ (spelled quote after ++ [quote]))) := by
  -- The run plays no part in choosing the quote, so the quote does not depend on it.
  refine ⟨quoteFor ((before ++ after).map Char.toNat), quoteFor_toNat _, fun middle h => ?_⟩
  have hspelled : ∀ quote s, (List.map Char.toNat s).flatMap (escaped quote isPrintable) =
      spelled quote s := fun _ _ => rfl
  simp only [quoted, quotedCodes, String.toList_ofList]
  rw [hspelled, quoteFor_append h, spelled_append, spelled_append,
    spelled_of_forall (quoteFor_toNat _) h]
  simp

/-- Runs of characters that stand for themselves before an at sign are equal if the quoted texts
are, whatever follows them. -/
theorem eq_of_quoted_append {before x y after : List Char} (hx : ∀ c ∈ x, StandsForItself c)
    (hy : ∀ c ∈ y, StandsForItself c) (hxat : '@' ∉ x) (hyat : '@' ∉ y) {s t : List Char}
    (h : (quoted (String.ofList (before ++ x ++ '@' :: after))).toList ++ s =
      (quoted (String.ofList (before ++ y ++ '@' :: after))).toList ++ t) : x = y := by
  obtain ⟨quote, hquote, hform⟩ := toList_quoted before ('@' :: after)
  have hat : StandsForItself '@' := ⟨by decide, by decide, by decide, by decide, by decide⟩
  -- the at sign after the run stands for itself as well
  have hspelled : spelled quote ('@' :: after) = '@' :: spelled quote after := by
    rw [← List.singleton_append, spelled_append, spelled_of_forall hquote (by simpa using hat)]
    rfl
  rw [hform x hx, hform y hy, hspelled] at h
  simp only [List.append_assoc, List.cons_append, List.cons.injEq, true_and] at h
  have hcut := congrArg (cut '@') (List.append_cancel_left h)
  rw [cut_append_cons _ hxat, cut_append_cons _ hyat] at hcut
  exact congrArg Prod.fst (Option.some.inj hcut)

end Egress.Text
