import Egress.Proofs.Host.Normal

/-!
# Names in lower case

An ASCII form names the same domain in lower case, because each of its labels is lowered before it
is read. Whether a host is an ASCII form shows at its beginning, `xn--`, and the beginning of a
normal form is as good as its lower case form: the capital letters of a normal form stand in
escapes, and no escape has an `x` or an `n`. So a URL in normal form whose name can be read keeps
such a name when its host is lowered.

## Key results

- `toUnicode_map_toLower`: the domain of an ASCII form in lower case
- `hostCodes_lowered`: the name of a URL whose host is lowered
-/

namespace Egress.Host

open Egress.Text Egress.Url

/-! ### Labels and domains -/

/-- A label is lowered before it is read. -/
theorem labelToUnicode_map_toLower (label : List Char) :
    labelToUnicode (label.map Char.toLower) = labelToUnicode label := by
  simp only [labelToUnicode, map_toLower_map_toLower]

/-- No capital letter separates labels, and neither does its lower case form. -/
theorem isLabelSeparator_toLower (c : Char) :
    isLabelSeparator c.toLower = isLabelSeparator c := by
  cases hupper : c.isUpper with
  | false => rw [toLower_eq_self hupper]
  | true =>
    exact of_ascii (P := fun c => isLabelSeparator c.toLower = isLabelSeparator c) (by decide)
      (lt_of_isUpper hupper)

/-- The labels of a domain in lower case. -/
theorem labelsOf_map_toLower (domain : List Char) :
    labelsOf (domain.map Char.toLower) =
      ((labelsOf domain).1.map (List.map Char.toLower), (labelsOf domain).2) := by
  -- The last piece is empty in lower case if it was before.
  have hlast : ((splitBy isLabelSeparator domain).map (List.map Char.toLower)).getLast? = some [] ↔
      (splitBy isLabelSeparator domain).getLast? = some [] := by
    rw [List.getLast?_map]
    cases (splitBy isLabelSeparator domain).getLast? with
    | none => simp
    | some label => simp
  simp only [labelsOf, splitBy_map isLabelSeparator_toLower, hlast]
  split
  · rw [List.map_dropLast]
  · rfl

/-- An ASCII form names the same domain in lower case. -/
theorem toUnicode_map_toLower (domain : List Char) :
    toUnicode (domain.map Char.toLower) = toUnicode domain := by
  have hlabels : (fun label : List Char => labelToUnicode (label.map Char.toLower)) =
      labelToUnicode := funext labelToUnicode_map_toLower
  simp only [toUnicode, labelsOf_map_toLower, List.length_map, List.map_eq_nil_iff,
    List.mapM_map, Function.comp_def, hlabels]

/-! ### The beginning of an ASCII form -/

/-- A character whose capital letters stand in escapes is an `x`, an `n` or a hyphen if its lower
case form is. -/
private theorem eq_of_toLower_eq {c d : Char} (hc : c.isUpper = true → c ∈ escapeChars)
    (hd : d ∈ "xn-".toList) (h : c.toLower = d) : c = d := by
  cases hupper : c.isUpper with
  | false => rw [← h, toLower_eq_self hupper]
  | true =>
    have all : (escapeChars.all fun e => !"xn-".toList.contains e.toLower) = true := by decide
    have hno := List.all_eq_true.1 all c (hc hupper)
    rw [h, List.contains_iff_mem.2 hd] at hno
    cases hno

/-- A text whose capital letters stand in escapes begins with such characters if its lower case form
does. -/
theorem isPrefixOf_map_toLower {start s : List Char} (hstart : ∀ d ∈ start, d ∈ "xn-".toList)
    (hs : ∀ c ∈ s, c.isUpper = true → c ∈ escapeChars) :
    start.isPrefixOf (s.map Char.toLower) = start.isPrefixOf s := by
  -- By induction on what is looked for, character by character.
  induction start generalizing s with
  | nil => rfl
  | cons d rest ih =>
    cases s with
    | nil => rfl
    | cons c s =>
      have hd := hstart d List.mem_cons_self
      have hfirst : (d == c.toLower) = (d == c) := by
        rw [Bool.eq_iff_iff, beq_iff_eq, beq_iff_eq]
        constructor
        · intro h
          exact (eq_of_toLower_eq (hs c List.mem_cons_self) hd h.symm).symm
        · rintro rfl
          have all : ("xn-".toList.all fun e => e.toLower = e) = true := by decide
          simpa using (of_decide_eq_true (List.all_eq_true.1 all d hd)).symm
      have hrest := ih (fun e he => hstart e (List.mem_cons_of_mem _ he))
        fun e he => hs e (List.mem_cons_of_mem c he)
      rw [List.map_cons, List.isPrefixOf_cons_cons, List.isPrefixOf_cons_cons, hfirst, hrest]

/-! ### The name of a URL -/

/-- A URL whose name can be read and is not empty has such a name when its host is lowered. -/
theorem hostCodes_lowered {u v : Url} (hn : NormalHost u.host.toList)
    (hv : v.host.toList = lowered u.host.toList) {name : List Nat} (h : u.hostCodes = .ok name)
    (hne : name ≠ []) : ∃ name, v.hostCodes = .ok name ∧ name ≠ [] := by
  -- A host with a colon is an address, which is not lowered.
  by_cases hcolon : ':' ∈ u.host.toList
  · rw [lowered, if_pos hcolon] at hv
    exact ⟨name, by rw [hostCodes, hv]; exact h, hne⟩
  · rw [lowered, if_neg hcolon] at hv
    have hbegin : "xn--".toList.isPrefixOf (u.host.toList.map Char.toLower) =
        "xn--".toList.isPrefixOf u.host.toList :=
      isPrefixOf_map_toLower (by simp) fun c hc => hn.capitals hcolon hc
    rw [hostCodes] at h ⊢
    rw [hv, hbegin, toUnicode_map_toLower]
    split
    · rename_i hencoded
      rw [if_pos hencoded] at h
      exact ⟨name, h, hne⟩
    · rename_i hplain
      rw [if_neg hplain] at h
      cases h
      refine ⟨_, rfl, ?_⟩
      simpa using hne

end Egress.Host
