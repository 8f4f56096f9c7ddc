import Egress.Url.Parse

/-!
# Splitting texts

A text is the pieces between its separators, put together again. Splitting reads one character
after the other from the right, so every fact about the pieces is an induction on the text.

## Key results

- `splitBy_cons_sep`, `splitBy_cons`: how one more character changes the pieces
- `splitBy_of_forall`, `splitBy_append`: texts without separators, alone and in front of others
- `splitBy_append_cons`, `splitBy_concat`: what follows a separator, and what follows a text
- `eq_of_splitBy`: the text that the pieces make up
- `splitBy_map`, `mem_of_mem_splitBy`: replaced characters, and the characters of a piece
- `splitBy_joinPath`: the segments of a path are the texts that were joined
- `cutLast_append_cons`, `cutLast_eq_none`: the last separator of a text
-/

namespace Egress

namespace Text

variable {p : Char → Bool}

/-- A text none of whose characters is trimmed stays as it is. -/
theorem trimBy_of_forall {s : List Char} (h : ∀ c ∈ s, p c = false) : trimBy p s = s := by
  have hd : ∀ l : List Char, (∀ c ∈ l, p c = false) → l.dropWhile p = l := by
    intro l hl
    cases l with
    | nil => rfl
    | cons c rest => rw [List.dropWhile_cons, hl c (by simp)]; rfl
  simp only [trimBy]
  rw [hd s h, hd s.reverse (fun c hc => h c (List.mem_reverse.1 hc)), List.reverse_reverse]

/-- A character of a text is trimmed off or left. -/
theorem mem_trimBy {s : List Char} {c : Char} (h : c ∈ s) : p c = true ∨ c ∈ trimBy p s := by
  have hdrop : ∀ l : List Char, c ∈ l → p c = true ∨ c ∈ l.dropWhile p := by
    intro l hl
    rw [← List.takeWhile_append_dropWhile (p := p) (l := l), List.mem_append] at hl
    exact hl.imp_left fun hc => List.all_eq_true.1 List.all_takeWhile c hc
  rcases hdrop s h with hc | hc
  · exact .inl hc
  · rcases hdrop _ (List.mem_reverse.2 hc) with hc | hc
    · exact .inl hc
    · exact .inr (List.mem_reverse.2 hc)

/-! ### Pieces -/

/-- A text has at least one piece. -/
theorem splitBy_ne_nil (p : Char → Bool) (s : List Char) : splitBy p s ≠ [] := by
  cases s with
  | nil => exact List.cons_ne_nil _ _
  | cons c rest =>
    simp only [splitBy, List.foldr_cons]
    split
    · exact List.cons_ne_nil _ _
    · split <;> exact List.cons_ne_nil _ _

/-- A separator begins a new piece. -/
theorem splitBy_cons_sep {c : Char} (hc : p c = true) (s : List Char) :
    splitBy p (c :: s) = [] :: splitBy p s := by
  simp only [splitBy, List.foldr_cons, hc, if_true]

/-- Any other character belongs to the first piece. -/
theorem splitBy_cons {c : Char} (hc : p c = false) (s : List Char) :
    splitBy p (c :: s) = (splitBy p s).modifyHead (c :: ·) := by
  have hne := splitBy_ne_nil p s
  simp only [splitBy, List.foldr_cons, hc, Bool.false_eq_true, if_false] at hne ⊢
  split
  · rename_i heq
    exact absurd heq hne
  · rename_i heq
    rw [heq]
    rfl

/-- A text without separators is a single piece. -/
theorem splitBy_of_forall {s : List Char} (h : ∀ c ∈ s, p c = false) : splitBy p s = [s] := by
  induction s with
  | nil => rfl
  | cons c rest ih =>
    rw [splitBy_cons (h c (by simp)), ih fun d hd => h d (by simp [hd])]
    rfl

/-- No character is the separator if that does not occur. -/
theorem forall_ne_of_not_mem {sep : Char} {s : List Char} (h : sep ∉ s) :
    ∀ c ∈ s, decide (c = sep) = false := by
  intro c hc
  rw [decide_eq_false_iff_not]
  rintro rfl
  exact h hc

/-- A text without separators belongs to the first piece of what follows it. -/
theorem splitBy_append {a : List Char} (h : ∀ c ∈ a, p c = false) (s : List Char) :
    splitBy p (a ++ s) = (splitBy p s).modifyHead (a ++ ·) := by
  induction a with
  | nil => exact (congrFun List.modifyHead_id (splitBy p s)).symm
  | cons c rest ih =>
    rw [List.cons_append, splitBy_cons (h c (by simp)), ih fun d hd => h d (by simp [hd]),
      List.modifyHead_modifyHead]
    rfl

/-- The pieces on both sides of a separator. -/
theorem splitBy_append_cons {sep : Char} (hsep : p sep = true) (a b : List Char) :
    splitBy p (a ++ sep :: b) = splitBy p a ++ splitBy p b := by
  induction a with
  | nil => exact splitBy_cons_sep hsep b
  | cons c rest ih =>
    cases hc : p c with
    | true =>
      rw [List.cons_append, splitBy_cons_sep hc, splitBy_cons_sep hc, ih, List.cons_append]
    | false =>
      -- The character joins the first piece of what follows it.
      obtain ⟨first, others, heq⟩ := List.exists_cons_of_ne_nil (splitBy_ne_nil p rest)
      rw [List.cons_append, splitBy_cons hc, splitBy_cons hc, ih, heq]
      rfl

/-- A text without separators belongs to the last piece of what stands before it. -/
theorem splitBy_concat {a b : List Char} {front : List (List Char)} {last : List Char}
    (ha : splitBy p a = front ++ [last]) (hb : ∀ c ∈ b, p c = false) :
    splitBy p (a ++ b) = front ++ [last ++ b] := by
  induction a generalizing front last with
  | nil =>
    obtain ⟨rfl, rfl⟩ : front = [] ∧ last = [] := by
      cases front with
      | nil => exact ⟨rfl, (List.cons.inj ha).1.symm⟩
      | cons first others => simp [splitBy] at ha
    exact splitBy_of_forall hb
  | cons c rest ih =>
    -- The last piece of the rest is the one that the text is put behind.
    obtain ⟨initial, final, heq⟩ : ∃ initial final, splitBy p rest = initial ++ [final] :=
      ⟨_, _, (List.dropLast_concat_getLast (splitBy_ne_nil p rest)).symm⟩
    have ih := ih heq
    cases hc : p c with
    | true =>
      rw [splitBy_cons_sep hc, heq, ← List.cons_append] at ha
      obtain ⟨rfl, hlast⟩ := List.append_inj' ha rfl
      rw [List.cons_append, splitBy_cons_sep hc, ih, List.cons_append, (List.cons.inj hlast).1]
    | false =>
      rw [splitBy_cons hc, heq] at ha
      rw [List.cons_append, splitBy_cons hc, ih]
      cases initial with
      -- The character joins the first piece of the rest, which may be the last one too.
      | nil =>
        obtain ⟨rfl, hlast⟩ :=
          List.append_inj' (show [] ++ [c :: final] = front ++ [last] from ha) rfl
        cases hlast
        rfl
      | cons first others =>
        rw [List.cons_append, List.modifyHead_cons, ← List.cons_append] at ha
        obtain ⟨rfl, hlast⟩ := List.append_inj' ha rfl
        cases hlast
        rfl

/-- The pieces of a text, put together with the separator, are the text. -/
theorem eq_of_splitBy {sep : Char} {s first : List Char} {rest : List (List Char)}
    (h : splitBy (· = sep) s = first :: rest) : s = first ++ rest.flatMap (sep :: ·) := by
  induction s generalizing first rest with
  | nil =>
    cases h
    rfl
  | cons c others ih =>
    -- The rest has a first piece, before which the character is put.
    obtain ⟨next, more, heq⟩ :=
      List.exists_cons_of_ne_nil (splitBy_ne_nil (fun d => decide (d = sep)) others)
    by_cases hc : c = sep
    · rw [splitBy_cons_sep (decide_eq_true hc), heq] at h
      cases h
      rw [List.nil_append, List.flatMap_cons, List.cons_append, ← ih heq, hc]
    · rw [splitBy_cons (decide_eq_false hc), heq] at h
      cases h
      rw [List.cons_append, ← ih heq]

/-- The pieces of a text are the text without the separators. -/
theorem flatten_splitBy (s : List Char) : (splitBy p s).flatten = s.filter (!p ·) := by
  induction s with
  | nil => rfl
  | cons c rest ih =>
    cases hc : p c with
    | true =>
      rw [splitBy_cons_sep hc, List.flatten_cons, List.nil_append, ih,
        List.filter_cons_of_neg (by simp [hc])]
    | false =>
      -- The character joins the first piece, and it is kept.
      obtain ⟨first, others, heq⟩ := List.exists_cons_of_ne_nil (splitBy_ne_nil p rest)
      rw [heq] at ih
      rw [splitBy_cons hc, heq, List.filter_cons_of_pos (by simp [hc]), ← ih]
      rfl

/-- A character of a text is a separator or belongs to a piece. -/
theorem mem_splitBy {s : List Char} {c : Char} (h : c ∈ s) :
    p c = true ∨ ∃ piece ∈ splitBy p s, c ∈ piece := by
  induction s with
  | nil => cases h
  | cons d rest ih =>
    cases hd : p d with
    | true =>
      rw [splitBy_cons_sep hd]
      rcases List.mem_cons.1 h with rfl | h
      · exact .inl hd
      · rcases ih h with hc | ⟨piece, hp, hc⟩
        · exact .inl hc
        · exact .inr ⟨piece, List.mem_cons_of_mem _ hp, hc⟩
    | false =>
      -- The character joins the first piece, so either it is the one or the piece grows.
      obtain ⟨first, others, heq⟩ := List.exists_cons_of_ne_nil (splitBy_ne_nil p rest)
      rw [splitBy_cons hd]
      rw [heq] at ih ⊢
      rcases List.mem_cons.1 h with rfl | h
      · exact .inr ⟨c :: first, by simp, by simp⟩
      · rcases ih h with hc | ⟨piece, hp, hc⟩
        · exact .inl hc
        · rcases List.mem_cons.1 hp with rfl | hp
          · exact .inr ⟨d :: piece, by simp, by simp [hc]⟩
          · exact .inr ⟨piece, by simp [hp], hc⟩

/-- Replacing characters by others, separators by separators, replaces them in the pieces. -/
theorem splitBy_map {f : Char → Char} (hf : ∀ c, p (f c) = p c) (s : List Char) :
    splitBy p (s.map f) = (splitBy p s).map (List.map f) := by
  induction s with
  | nil => rfl
  | cons c rest ih =>
    cases hc : p c with
    | true =>
      rw [List.map_cons, splitBy_cons_sep ((hf c).trans hc), splitBy_cons_sep hc, ih]
      rfl
    | false =>
      -- The character joins the first piece on both sides.
      obtain ⟨first, others, heq⟩ := List.exists_cons_of_ne_nil (splitBy_ne_nil p rest)
      rw [List.map_cons, splitBy_cons ((hf c).trans hc), splitBy_cons hc, ih, heq]
      rfl

/-- A piece holds nothing but characters of the text that are no separators. -/
theorem mem_of_mem_splitBy {s piece : List Char} (h : piece ∈ splitBy p s) {c : Char}
    (hc : c ∈ piece) : c ∈ s ∧ p c = false := by
  induction s generalizing piece with
  | nil =>
    cases List.mem_singleton.1 h
    cases hc
  | cons d rest ih =>
    have hrest : ∀ {piece}, piece ∈ splitBy p rest → c ∈ piece → c ∈ d :: rest ∧ p c = false :=
      fun hp hc => (ih hp hc).imp_left (List.mem_cons_of_mem d)
    cases hd : p d with
    | true =>
      rw [splitBy_cons_sep hd] at h
      rcases List.mem_cons.1 h with rfl | h
      · cases hc
      · exact hrest h hc
    | false =>
      obtain ⟨first, others, heq⟩ := List.exists_cons_of_ne_nil (splitBy_ne_nil p rest)
      rw [splitBy_cons hd, heq, List.modifyHead_cons] at h
      rw [heq] at hrest
      rcases List.mem_cons.1 h with rfl | h
      -- Only the first piece has grown, by a character that is no separator.
      · rcases List.mem_cons.1 hc with rfl | hc
        · exact ⟨List.mem_cons_self, hd⟩
        · exact hrest List.mem_cons_self hc
      · exact hrest (List.mem_cons_of_mem _ h) hc

end Text

namespace Url

open Egress.Text

/-! ### Segments of paths -/

/-- The segments of a path are the texts that were joined. -/
theorem splitBy_joinPath {segments : List (List Char)} (hne : segments ≠ [])
    (h : ∀ segment ∈ segments, '/' ∉ segment) :
    splitBy (· = '/') (joinPath segments) = segments := by
  have hno : ∀ segment ∈ segments, ∀ c ∈ segment, decide (c = '/') = false := fun segment hs =>
    forall_ne_of_not_mem (h segment hs)
  clear h
  induction segments with
  | nil => exact absurd rfl hne
  | cons segment rest ih =>
    cases rest with
    | nil =>
      have hjoin : joinPath [segment] = segment := by simp [joinPath]
      rw [hjoin, splitBy_of_forall (hno segment (by simp))]
    | cons next others =>
      have hjoin : joinPath (segment :: next :: others) =
          segment ++ '/' :: joinPath (next :: others) := by
        simp [joinPath, List.intersperse_cons_cons]
      -- A segment ends at the first slash, which is the one that joins it to the next.
      rw [hjoin, splitBy_append (hno segment (by simp)), splitBy_cons_sep (by decide),
        ih (List.cons_ne_nil _ _) fun s hs => hno s (List.mem_cons_of_mem _ hs)]
      simp

/-! ### The last separator -/

/-- A text is cut at a separator after which there is none. -/
theorem cutLast_append_cons {sep : Char} (before : List Char) {after : List Char}
    (h : sep ∉ after) : cutLast sep (before ++ sep :: after) = some (before, after) := by
  have hcut : cut sep (before ++ sep :: after).reverse = some (after.reverse, before.reverse) := by
    rw [List.reverse_append, List.reverse_cons, List.append_assoc]
    exact cut_append_cons _ fun hc => h (List.mem_reverse.1 hc)
  rw [cutLast, hcut]
  simp

/-- A text is cut unless it has no separator. -/
theorem cutLast_eq_none {sep : Char} {s : List Char} : cutLast sep s = none ↔ sep ∉ s := by
  rw [cutLast, Option.map_eq_none_iff, cut_eq_none_iff, List.mem_reverse]

/-- What a text is cut into at its last separator. -/
theorem eq_of_cutLast_eq_some {sep : Char} {s before after : List Char}
    (h : cutLast sep s = some (before, after)) : s = before ++ sep :: after ∧ sep ∉ after := by
  obtain ⟨⟨a, b⟩, hc, hab⟩ := Option.map_eq_some_iff.1 h
  obtain ⟨heq, hno⟩ := eq_of_cut_eq_some hc
  simp only [Prod.mk.injEq] at hab
  obtain ⟨rfl, rfl⟩ := hab
  refine ⟨?_, fun hm => hno (List.mem_reverse.1 hm)⟩
  rw [← List.reverse_reverse s, heq]
  simp

/-- A separator in a text has a last place there. -/
theorem exists_last_of_mem {sep : Char} {s : List Char} (h : sep ∈ s) :
    ∃ before after, s = before ++ sep :: after ∧ sep ∉ after := by
  obtain ⟨⟨before, after⟩, hcut⟩ :=
    Option.ne_none_iff_exists'.1 fun hnone => cutLast_eq_none.1 hnone h
  exact ⟨before, after, eq_of_cutLast_eq_some hcut⟩

end Url

end Egress
