import Egress.Proofs.Layout.Marks
import Egress.Proofs.Layout.Narrow
import Egress.Proofs.Markup.Literal
import Egress.Proofs.Outcome
import Egress.Report.Basic

/-!
# How errors are printed

An error is printed as a heading with a style of its own, behind which the text of the error is
read as markup. The text is printed as it is if and only if there is nothing to read in it and it
has no tabs.

## Key results

- `plain_markup`: the heading, and what is shown for the text
- `PrintsText`, `printsText_iff`: the errors that are printed with their text
-/

namespace Egress.DestinationError

open Egress.Markup Egress.Text
open Layout (lineMarks_splitBy_newline marks_wrap wrap_of_length)

variable {e : DestinationError}

/-! ### The heading -/

-- the names of colours are a text that is read by recursion on its characters
set_option maxRecDepth 100000 in
/-- Red is the name of a colour. -/
private theorem isColour_red : isColour "red".toList = .ok true := by
  have hmem : ∀ {l w : List Char}, w ∈ words l → w ∈ words (String.ofList l).toList :=
    fun h => String.toList_ofList.symm ▸ h
  have hred : "red".toList ∈ colourNames := by
    unfold colourNames
    refine hmem ?_
    decide +kernel
  unfold isColour
  exact if_pos (.inr hred)

/-- The tag of the heading, which has a style for its name. -/
def headingTag : Tag := ⟨"bold red".toList, none⟩

/-- The words of the heading's style are read: the first one is an attribute, the second one a
colour, and neither of them announces another word. -/
theorem addWords_heading : Style.addWords {} ["bold".toList, "red".toList] =
    .ok { attributes := [(.bold, true)], colour := some "red".toList } := by
  have hbold : Attribute.ofName? (lower "bold".toList) = some .bold := by decide +kernel
  have hlower : lower "red".toList = "red".toList := by decide +kernel
  have hred : Attribute.ofName? "red".toList = none := by decide +kernel
  -- The first word: no special word, but the name of an attribute.
  rw [Style.addWords, if_neg (by decide +kernel), if_neg (by decide +kernel),
    if_neg (by decide +kernel)]
  simp only [hbold]
  -- The second word: no attribute, but a colour.
  rw [Style.addWords]
  simp only [hlower]
  rw [if_neg (by decide +kernel), if_neg (by decide +kernel), if_neg (by decide +kernel), hred]
  simp only [isColour_red]
  exact bind_eq_ok.2 ⟨true, rfl, rfl⟩

/-- The heading names a style. -/
theorem ofText_heading : Style.ofText headingTag.name =
    .ok { attributes := [(.bold, true)], colour := some "red".toList } := by
  have hwords : (splitBy isBlank headingTag.name).filter (· ≠ []) =
      ["bold".toList, "red".toList] := by decide +kernel
  have hnone : trim headingTag.name ≠ "none".toList := by decide +kernel
  rw [← addWords_heading, ← hwords]
  exact if_neg hnone

/-- The style of the heading can be looked up. -/
theorem lookUp_heading : Style.lookUp headingTag.style = .ok () := by
  have hname : headingTag.style = headingTag.name := rfl
  rw [hname, Style.lookUp, ofText_heading]

/-- The tag of the heading is named as it is written. -/
theorem canonical_heading : Tag.canonical headingTag.name = .ok headingTag.name := by
  have htext : Style.text { attributes := [(.bold, true)], colour := some "red".toList } =
      headingTag.name := by decide +kernel
  rw [Tag.canonical, Style.canonical, ofText_heading]
  exact congrArg Except.ok htext

/-- The heading opens a tag. -/
theorem opened_heading : Tag.opened headingTag.name = .ok headingTag := by
  have hinner : Tag.ofInner headingTag.name = headingTag := by decide +kernel
  rw [Tag.opened, hinner, canonical_heading]
  rfl

/-- The tokens of the heading. -/
def headingTokens : List Token :=
  [.text [], .text [], .tag headingTag.name 0, .text "Error:".toList, .text [],
    .tag ('/' :: headingTag.name) 16]

/-- The heading is cut at its tags, with the text behind it. -/
theorem tokens_markup (e : DestinationError) : tokens e.markup.toList =
    headingTokens ++ tokensAfter 27 [' '] e.message.toList := by
  have hmarkup : e.markup.toList = "[bold red]Error:[/bold red] ".toList ++ e.message.toList :=
    String.toList_append
  generalize e.message.toList = message at hmarkup ⊢
  obtain ⟨first, rest, hs⟩ :=
    List.exists_cons_of_ne_nil (splitBy_ne_nil (fun c => decide (c = '[')) message)
  -- The heading has two opening brackets, and each begins a tag.
  have hheading : "[bold red]Error:[/bold red] ".toList =
      '[' :: ("bold red]Error:".toList ++ '[' :: "/bold red] ".toList) := by decide +kernel
  have hno : ∀ c ∈ "bold red]Error:".toList, decide (c = '[') = false :=
    forall_ne_of_not_mem (by decide +kernel)
  have hno' : ∀ c ∈ "/bold red] ".toList, decide (c = '[') = false :=
    forall_ne_of_not_mem (by decide +kernel)
  have hopen : cutTag? "bold red]Error:".toList = some (headingTag.name, "Error:".toList) := by
    decide +kernel
  have hclose : cutTag? ("/bold red] ".toList ++ first) =
      some ('/' :: headingTag.name, ' ' :: first) := rfl
  have hsplit : splitBy (· = '[') ("[bold red]Error:[/bold red] ".toList ++ message) =
      [] :: "bold red]Error:".toList :: ("/bold red] ".toList ++ first) :: rest := by
    rw [hheading, List.cons_append, List.append_assoc, List.cons_append,
      splitBy_cons_sep (by rfl), splitBy_append_cons (by rfl), splitBy_of_forall hno,
      splitBy_append hno', hs]
    rfl
  rw [tokens, hmarkup, hsplit]
  simp only [tokensAfter, hs]
  -- Both tags are cut at their closing brackets, and the rest is the text of the error.
  rw [tokensFrom_cut hopen, tokensFrom_cut hclose]
  rfl

/-- The styles of an error can be looked up if there are no tags in its text. -/
theorem lookUpStyles_markup (h : ¬HasTag e.message.toList) :
    lookUpStyles e.markup.toList = .ok () := by
  have hheading : ∀ t ∈ headingTokens, t.lookUpStyle = .ok () := by
    simp only [headingTokens, List.forall_mem_cons]
    exact ⟨rfl, rfl, lookUpStyle_open (by decide) opened_heading lookUp_heading 0, rfl, rfl,
      lookUpStyle_close _ 16, List.forall_mem_nil _⟩
  have hmessage := forM_eq_ok.1 (lookUpStyle_tokensAfter h 27 [' '])
  rw [lookUpStyles, tokens_markup, forM_eq_ok, List.forall_mem_append]
  exact ⟨hheading, hmessage⟩

/-- The line of an error is its heading and its text. -/
theorem toList_line (e : DestinationError) :
    ("Error: " ++ e.message).toList = "Error:".toList ++ ' ' :: e.message.toList := by
  have hheading : "Error: ".toList = "Error:".toList ++ [' '] := by decide
  rw [String.toList_append, hheading, List.append_assoc]
  rfl

variable [Evaluation]

/-- The text of an error is shown as markup behind a heading. -/
theorem plain_markup (e : DestinationError) : plain e.markup.toList =
    (render [] (tokensAfter 27 [' '] e.message.toList)).map ("Error:".toList ++ ·) := by
  have htrim : trim headingTag.name = headingTag.name := by decide +kernel
  -- The first tag is opened at the beginning.
  have hopen : applyTag [] headingTag.name 0 = .ok [headingTag] := by
    refine applyTag_open (fun name hname => ?_) opened_heading [] 0
    have hfirst : (Tag.ofInner headingTag.name).name.head? = some '/' := by rw [hname]; rfl
    exact absurd hfirst (by decide +kernel)
  have hinner : (Tag.ofInner ('/' :: headingTag.name)).name = '/' :: headingTag.name := by
    decide +kernel
  -- The second one closes it by its name.
  have hclose : applyTag [headingTag] ('/' :: headingTag.name) 16 = .ok [] :=
    applyTag_close hinner (by rw [htrim]; decide) (by rw [htrim, canonical_heading]) rfl [] 16
  have hempty : shown [] = [] := rfl
  have hheading : shown "Error:".toList = "Error:".toList := by decide +kernel
  rw [plain, tokens_markup]
  simp only [headingTokens, List.cons_append, List.nil_append, render_text, render_tag hopen,
    render_tag hclose, hempty, hheading]
  cases render [] (tokensAfter 27 [' '] e.message.toList) <;> rfl

/-! ### The text -/

/-- An error is printed when its markup can be read and drawn. -/
theorem report_eq_ok {width : Nat} (hwidth : width ≠ 0) {lines : List (List Char)} :
    e.report width = .ok lines ↔ ∃ t, plain e.markup.toList = .ok t ∧
      lookUpStyles e.markup.toList = .ok () ∧ lines = Layout.wrap .fold width t := by
  -- Reading the markup comes first, then the styles; a page without cells is excluded.
  constructor
  · intro h
    obtain ⟨t, ht, h⟩ := bind_eq_ok.1 h
    rw [if_neg hwidth] at h
    obtain ⟨_, hstyles, h⟩ := bind_eq_ok.1 h
    cases h
    exact ⟨t, ht, hstyles, rfl⟩
  · rintro ⟨t, ht, hstyles, rfl⟩
    refine bind_eq_ok.2 ⟨t, ht, ?_⟩
    rw [if_neg hwidth]
    exact bind_eq_ok.2 ⟨(), hstyles, rfl⟩

/-- An error is printed with its text on any page that is wide enough. -/
def PrintsText (e : DestinationError) : Prop :=
  ∃ n, ∀ width, n ≤ width →
    e.report width = .ok (splitBy (· = '\n') ("Error: " ++ e.message).toList)

/-- An error is printed with its text if and only if there is nothing to read in it and it has no
tabs. -/
theorem printsText_iff :
    e.PrintsText ↔ IsLiteral e.message.toList ∧ '\t' ∉ e.message.toList := by
  constructor
  -- Any width that is large enough will do, so one that is not zero is taken.
  · rintro ⟨n, h⟩
    have h := h (n + 1) (Nat.le_succ n)
    rw [toList_line] at h
    obtain ⟨_, hshown, _, h⟩ := (report_eq_ok (Nat.succ_ne_zero n)).1 h
    rw [plain_markup] at hshown
    obtain ⟨text, htext, rfl⟩ := map_eq_ok.1 hshown
    have hwrap := marks_wrap .fold (n + 1) ("Error:".toList ++ text)
    have hmarks := marks_tokensAfter htext
    rw [← h, lineMarks_splitBy_newline, marks_append, marks_append] at hwrap
    rw [List.singleton_append] at hmarks
    -- No mark is lost, so there was nothing to read.
    obtain ⟨htag, hpiece⟩ := hmarks.2 (by omega)
    rw [render_tokensAfter htag hpiece] at htext
    cases htext
    refine ⟨⟨isPlainPiece_blank.1 hpiece, htag⟩, fun htab => ?_⟩
    have hless := hwrap.2 (by simp [htab])
    exact absurd hless (Nat.lt_irrefl _)
  · rintro ⟨hliteral, htab⟩
    -- Twice the length is room for every character.
    refine ⟨2 * ("Error:".toList ++ ' ' :: e.message.toList).length, fun width hwidth => ?_⟩
    have hshown : plain e.markup.toList = .ok ("Error:".toList ++ ' ' :: e.message.toList) := by
      have hpiece : IsPlainPiece ([' '] ++ e.message.toList) :=
        isPlainPiece_blank.2 hliteral.toIsPlainPiece
      rw [plain_markup, render_tokensAfter hliteral.noTag hpiece]
      rfl
    have hpositive : width ≠ 0 := by
      simp only [List.length_append, List.length_cons] at hwidth
      omega
    have hnotab : '\t' ∉ "Error:".toList ++ ' ' :: e.message.toList := by simp [htab]
    rw [toList_line, ← wrap_of_length .fold hnotab hwidth]
    exact (report_eq_ok hpositive).2 ⟨_, hshown, lookUpStyles_markup hliteral.noTag, rfl⟩

end Egress.DestinationError
