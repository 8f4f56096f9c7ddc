import Egress.Http.Line

/-!
# Header lines put over others

Setting a line puts it in the place of all lines of its name and leaves the others as they are.
Lines that are set one after the other thus make an overlay: of every name that is set the last
line remains, and all lines of other names stay, in their order.

## Key results

- `filter_set_of_isNamed`, `filter_set_of_other`: the effect of setting one line
- `Overlaid`, `overlaid_foldl_set`: what lines look like after others were put over them
-/

namespace Egress.Http.Lines

variable {lines : Lines} {line l : Line} {name : List UInt8}

/-! ### Names -/

/-- Names are compared in lower case. -/
theorem isNamed_iff : isNamed name l = true ↔ foldName l.name = foldName name := by
  rw [isNamed, beq_iff_eq]

/-- Every line has its own name. -/
@[simp] theorem isNamed_self (l : Line) : isNamed l.name l = true := isNamed_iff.2 rfl

/-- Lines with the name of a line that has a name are the lines with that name. -/
theorem isNamed_congr (h : isNamed name line = true) (l : Line) :
    isNamed line.name l = isNamed name l := by
  rw [isNamed, isNamed, isNamed_iff.1 h]

/-- Of two lines, each has the name of the other or neither does. -/
theorem isNamed_comm (l m : Line) : isNamed l.name m = isNamed m.name l := by
  rw [Bool.eq_iff_iff, isNamed_iff, isNamed_iff]
  exact eq_comm

/-! ### Setting one line -/

/-- The line that replaces others is the only one of its name, if there was one. -/
theorem filter_replaceFirst_of_isNamed (hname : isNamed name line = true)
    (hany : lines.any (isNamed line.name) = true) :
    (replaceFirst line lines).filter (isNamed name) = [line] := by
  -- By induction on the lines; where the first of them is replaced, the others of its name are
  -- dropped.
  induction lines with
  | nil => simp at hany
  | cons l rest ih =>
    rw [replaceFirst]
    split
    · have hnone : (rest.filter (!isNamed line.name ·)).filter (isNamed name) = [] := by
        rw [List.filter_filter, List.filter_eq_nil_iff]
        intro m _
        simp [isNamed_congr hname]
      rw [List.filter_cons_of_pos hname, hnone]
    · rename_i hother
      have hrest : rest.any (isNamed line.name) = true := by simpa [hother] using hany
      rw [List.filter_cons_of_neg (by rwa [← isNamed_congr hname]), ih hrest]

/-- Replacing lines leaves the lines of other names as they are. -/
theorem filter_replaceFirst_of_other {p : Line → Bool}
    (hp : ∀ l, isNamed line.name l = true → p l = false) :
    (replaceFirst line lines).filter p = lines.filter p := by
  -- By induction on the lines; what is replaced and what is dropped has the name of the line.
  induction lines with
  | nil => rfl
  | cons l rest ih =>
    rw [replaceFirst]
    split
    · rename_i hsame
      have hrest : (rest.filter (!isNamed line.name ·)).filter p = rest.filter p := by
        rw [List.filter_filter]
        refine List.filter_congr fun m _ => ?_
        cases hm : isNamed line.name m with
        | true => simp [hp m hm]
        | false => simp
      rw [List.filter_cons_of_neg (by simp [hp line (isNamed_self line)]), hrest,
        List.filter_cons_of_neg (by simp [hp l hsame])]
    · rw [List.filter_cons, List.filter_cons, ih]

/-- A line that is set is the only one of its name. -/
theorem filter_set_of_isNamed (hname : isNamed name line = true) :
    (lines.set line).filter (isNamed name) = [line] := by
  rw [set]
  split
  · rename_i hany
    exact filter_replaceFirst_of_isNamed hname hany
  · rename_i hnone
    -- No line has the name, so the new one is put behind the others.
    have hempty : lines.filter (isNamed name) = [] := by
      rw [List.filter_eq_nil_iff]
      intro l hl hn
      exact hnone (List.any_eq_true.2 ⟨l, hl, by rwa [isNamed_congr hname]⟩)
    rw [List.filter_append, hempty, List.filter_cons_of_pos hname]
    rfl

/-- Setting a line leaves the lines of other names as they are. -/
theorem filter_set_of_other {p : Line → Bool}
    (hp : ∀ l, isNamed line.name l = true → p l = false) :
    (lines.set line).filter p = lines.filter p := by
  rw [set]
  split
  · exact filter_replaceFirst_of_other hp
  · rw [List.filter_append, List.filter_cons_of_neg (by simp [hp line (isNamed_self line)])]
    simp

/-! ### Overlays -/

/-- What lines look like after others were put over them, one after the other. -/
structure Overlaid (before given after : Lines) : Prop where
  -- A name that was given has one line, the last that was given.
  last : ∀ l ∈ given, ∃ final, (given.filter (isNamed l.name)).getLast? = some final ∧
    after.filter (isNamed l.name) = [final]
  -- The lines of all other names are as before, in the same order.
  others : after.filter (fun l => !given.any (isNamed l.name)) =
    before.filter (fun l => !given.any (isNamed l.name))

/-- The lines of a name after others were put over them. -/
theorem filter_foldl_set (name : List UInt8) (given lines : Lines) :
    (given.foldl set lines).filter (isNamed name) =
      (given.filter (isNamed name)).getLast?.elim (lines.filter (isNamed name)) ([·]) := by
  -- By induction on what is put over; the last line of the name decides, so the rest is asked
  -- first.
  induction given generalizing lines with
  | nil => rfl
  | cons line rest ih =>
    rw [List.foldl_cons, ih]
    cases hlast : (rest.filter (isNamed name)).getLast? with
    | some final =>
      cases hname : isNamed name line with
      | true => rw [List.filter_cons_of_pos hname, List.getLast?_cons, hlast]; rfl
      | false => rw [List.filter_cons_of_neg (by simp [hname]), hlast]; rfl
    | none =>
      -- No other line of the name follows, so this one decides if it has the name.
      have hempty := List.getLast?_eq_none_iff.1 hlast
      cases hname : isNamed name line with
      | true =>
        rw [List.filter_cons_of_pos hname, hempty]
        exact filter_set_of_isNamed hname
      | false =>
        rw [List.filter_cons_of_neg (by simp [hname]), hempty]
        refine filter_set_of_other fun l hl => ?_
        rw [isNamed_iff] at hl
        rw [← hname, isNamed, isNamed, hl]

/-- Lines that are put over others leave the lines of other names as they are. -/
theorem filter_foldl_set_of_other {p : Line → Bool} {given : Lines}
    (hp : ∀ line ∈ given, ∀ l, isNamed line.name l = true → p l = false) (lines : Lines) :
    (given.foldl set lines).filter p = lines.filter p := by
  induction given generalizing lines with
  | nil => rfl
  | cons line rest ih =>
    rw [List.foldl_cons, ih fun m hm => hp m (List.mem_cons_of_mem _ hm)]
    exact filter_set_of_other (hp line List.mem_cons_self)

/-- Lines that are set one after the other make an overlay. -/
theorem overlaid_foldl_set (given lines : Lines) :
    Overlaid lines given (given.foldl set lines) where
  last := by
    intro l hl
    rw [filter_foldl_set]
    cases hlast : (given.filter (isNamed l.name)).getLast? with
    | some final => exact ⟨final, rfl, rfl⟩
    | none =>
      -- The line itself has its name, so there is a last one.
      have hmem : l ∈ given.filter (isNamed l.name) := List.mem_filter.2 ⟨hl, isNamed_self l⟩
      rw [List.getLast?_eq_none_iff.1 hlast] at hmem
      cases hmem
  others := by
    refine filter_foldl_set_of_other (fun line hline l hl => ?_) lines
    rw [isNamed_comm] at hl
    rw [Bool.not_eq_false', List.any_eq_true]
    exact ⟨line, hline, hl⟩

end Egress.Http.Lines
