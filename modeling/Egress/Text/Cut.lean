import Egress.Text.Blank

/-! # Cutting a text at its first separator

`cut sep s` is the part of `s` before the first `sep` together with the part after it, when there
is one.  `cut_eq_some_iff` and `cut_eq_none_iff` characterise it. -/

namespace Egress.Text

/-- The parts before and after the first occurrence of a separator. -/
def cut (sep : Char) (s : List Char) : Option (List Char × List Char) :=
  match s.dropWhile (· != sep) with
  | [] => none
  | _ :: after => some (s.takeWhile (· != sep), after)

/-- The parts before and after the first occurrence of a separator; all and nothing without one. -/
def cutOr (sep : Char) (s : List Char) : List Char × List Char :=
  (cut sep s).getD (s, [])

theorem cut_append_cons {sep : Char} {before : List Char} (after : List Char)
    (h : sep ∉ before) : cut sep (before ++ sep :: after) = some (before, after) := by
  have hp : ∀ c ∈ before, (c != sep) = true := fun c hc => by
    simpa using fun e : c = sep => h (e ▸ hc)
  simp only [cut, List.dropWhile_append_of_pos hp, List.takeWhile_append_of_pos hp]
  simp

theorem eq_of_cut_eq_some {sep : Char} {s before after : List Char}
    (h : cut sep s = some (before, after)) : s = before ++ sep :: after ∧ sep ∉ before := by
  unfold cut at h
  split at h
  · cases h
  · rename_i c rest hd
    simp only [Option.some.injEq, Prod.mk.injEq] at h
    obtain ⟨rfl, rfl⟩ := h
    have hc : c = sep := by
      have := List.head?_dropWhile_not (· != sep) s
      rw [hd] at this
      simpa using this
    refine ⟨?_, fun hm => ?_⟩
    · rw [← hc, ← hd, hc, List.takeWhile_append_dropWhile]
    · simpa using List.all_eq_true.1 (List.all_takeWhile (p := (· != sep)) (l := s)) sep hm

theorem cut_eq_some_iff {sep : Char} {s before after : List Char} :
    cut sep s = some (before, after) ↔ s = before ++ sep :: after ∧ sep ∉ before :=
  ⟨eq_of_cut_eq_some, fun ⟨hs, hn⟩ => hs ▸ cut_append_cons after hn⟩

theorem cut_eq_none_iff {sep : Char} {s : List Char} : cut sep s = none ↔ sep ∉ s := by
  constructor
  · intro h hmem
    obtain ⟨before, after, rfl, hno⟩ := List.eq_append_cons_of_mem hmem
    rw [cut_append_cons after hno] at h
    cases h
  · intro h
    cases hcut : cut sep s with
    | none => rfl
    | some parts =>
      rw [(eq_of_cut_eq_some hcut).1] at h
      simp at h

end Egress.Text
