import Egress.Proofs.Markup.Marks
import Egress.Proofs.Outcome
import Egress.Proofs.Text.Split
import Mathlib.Algebra.GroupWithZero.Nat

/-!
# Texts that stand for themselves

A text with markup is shown as it is written if it is *literal*: it has no tag, no backslash before
an opening bracket, no name of an emoji between colons, and no control character. Each of these
loses marks when it is read, so no other text is shown as it is written.

## Key results

- `IsLiteral`: the texts without anything to read
- `plain_of_isLiteral`: they are shown as they are written
- `marks_plain`, `isLiteral_of_marks`: what is shown has no more marks than what is written, and
  less unless that is literal
-/

namespace Egress.Markup

open Egress.Text

/-! ### Escapes -/

/-- A backslash stands directly before an opening bracket. -/
def HasEscape (s : List Char) : Prop := ['\\', '['] <:+: s

/-- A text without escapes stays as it is. -/
theorem unescape_of_not_hasEscape {s : List Char} (h : ¬HasEscape s) : unescape s = s := by
  fun_induction unescape s with
  | case1 rest ih => exact absurd ⟨[], rest, rfl⟩ h
  | case2 c rest hne ih => rw [ih fun hrest => h (hrest.trans (List.suffix_cons c rest).isInfix)]
  | case3 => rfl

/-- An escape loses its backslash. -/
theorem marks_unescape (s : List Char) :
    marks (unescape s) ≤ marks s ∧ (HasEscape s → marks (unescape s) < marks s) := by
  have hslash : marks ['\\'] = 1 := rfl
  -- Along the scan: an escape, any other character, the end.
  fun_induction unescape s with
  | case1 rest ih =>
    rw [marks_cons '[', marks_cons '\\', marks_cons '[' rest]
    omega
  | case2 c rest hne ih =>
    rw [marks_cons c, marks_cons c rest]
    refine ⟨by omega, fun h => ?_⟩
    -- An escape is here, which the second case excludes, or in the rest.
    rcases List.infix_cons_iff.1 h with h | h
    · obtain ⟨after, h⟩ := h
      cases h
      exact absurd rfl (hne _ rfl)
    · have := ih.2 h
      omega
  | case3 => exact ⟨Nat.le_refl 0, fun h => by simpa using h.length_le⟩

/-! ### Emoji -/

variable {look : List Char → Option (List Char)}

/-- What is cut from a text after a colon ends at the next colon, and a selector is no mark. -/
theorem eq_of_cutEmoji? {s name selector after : List Char}
    (h : cutEmoji? s = some (name, selector, after)) :
    (∃ inside, s = inside ++ ':' :: after) ∧ marks selector = 0 := by
  have hselectors : (presentations.all fun p => marks [p.2] = 0) = true := by decide +kernel
  simp only [cutEmoji?] at h
  -- What was taken and what was dropped make up the text.
  split at h
  · rename_i rest hdrop
    have hwhole := List.prefix_iff_eq_append.1
      (List.takeWhile_prefix (l := s) fun c => c ≠ ':' && !isBlank c)
    rw [hdrop] at hwhole
    -- A selector comes from a table, none of whose entries is a mark.
    cases hselected : presentations.findSome? fun p => _ with
    | none =>
      rw [hselected] at h
      cases h
      exact ⟨⟨_, hwhole.symm⟩, rfl⟩
    | some selected =>
      rw [hselected] at h
      cases h
      obtain ⟨p, hp, hfound⟩ := List.exists_of_findSome?_eq_some hselected
      obtain ⟨_, hfound⟩ := Option.ite_none_right_eq_some.1 hfound
      cases hfound
      exact ⟨⟨_, hwhole.symm⟩, by simpa using List.all_eq_true.1 hselectors p hp⟩
  · cases h

/-- Texts are read character by character, and what may name an emoji at once. -/
theorem scan_induction {P : List Char → Prop} (nil : P [])
    (one : ∀ c rest, (c ≠ ':' ∨ cutEmoji? rest = none) → P rest → P (c :: rest))
    (cut : ∀ rest name selector after, cutEmoji? rest = some (name, selector, after) → P after →
      P (':' :: rest)) (s : List Char) : P s := by
  generalize hn : s.length = n
  -- By strong induction on the length, since a name is skipped as a whole.
  induction n using Nat.strongRecOn generalizing s with
  | ind n ih =>
    subst hn
    match s with
    | [] => exact nil
    | c :: rest =>
      by_cases hc : c = ':'
      · subst hc
        cases hcut : cutEmoji? rest with
        | none => exact one _ _ (.inr hcut) (ih _ (Nat.lt_succ_self _) rest rfl)
        | some parts =>
          obtain ⟨name, selector, after⟩ := parts
          obtain ⟨⟨inside, rfl⟩, _⟩ := eq_of_cutEmoji? hcut
          refine cut _ name selector after hcut (ih _ ?_ after rfl)
          simp only [List.length_cons, List.length_append]
          omega
      · exact one _ _ (.inl hc) (ih _ (Nat.lt_succ_self _) rest rfl)

/-- The name of an emoji stands between colons. -/
inductive NamesEmoji (look : List Char → Option (List Char)) : List Char → Prop
  | here {rest name selector after e : List Char}
    (cut : cutEmoji? rest = some (name, selector, after)) (known : look (lower name) = some e) :
    NamesEmoji look (':' :: rest)
  -- What the colon begins may name none, and there is one behind it.
  | past {rest name selector after : List Char}
    (cut : cutEmoji? rest = some (name, selector, after)) (names : NamesEmoji look after) :
    NamesEmoji look (':' :: rest)
  | later {c : Char} {rest : List Char} (one : c ≠ ':' ∨ cutEmoji? rest = none)
    (names : NamesEmoji look rest) : NamesEmoji look (c :: rest)

/-- Characters are passed over. -/
theorem replaceEmoji_skip (n : Nat) (s : List Char) :
    replaceEmoji look n s = replaceEmoji look 0 (s.drop n) := by
  induction s generalizing n with
  | nil => rw [List.drop_nil]; rfl
  | cons c rest ih =>
    cases n with
    | zero => rfl
    | succ n =>
      rw [List.drop_succ_cons, ← ih n, replaceEmoji, if_pos (Nat.succ_pos n), Nat.add_sub_cancel]

/-- Any other character is kept. -/
theorem replaceEmoji_one {c : Char} {rest : List Char} (h : c ≠ ':' ∨ cutEmoji? rest = none) :
    replaceEmoji look 0 (c :: rest) = c :: replaceEmoji look 0 rest := by
  rw [replaceEmoji, if_neg (Nat.lt_irrefl 0)]
  split
  · rename_i hc
    rw [h.resolve_left (fun hne => hne hc)]
  · rfl

/-- What may name an emoji is replaced if it does. -/
theorem replaceEmoji_cut {inside name selector after : List Char}
    (h : cutEmoji? (inside ++ ':' :: after) = some (name, selector, after)) :
    replaceEmoji look 0 (':' :: (inside ++ ':' :: after)) =
      (match look (lower name) with
        | some e => e ++ selector
        | none => ':' :: inside ++ [':']) ++ replaceEmoji look 0 after := by
  -- As many characters are skipped as were cut off.
  have hused : (inside ++ ':' :: after).length - after.length = (inside ++ [':']).length := by
    simp only [List.length_append, List.length_cons, List.length_nil]
    omega
  have hsplit : inside ++ ':' :: after = (inside ++ [':']) ++ after := by simp
  rw [replaceEmoji, if_neg (Nat.lt_irrefl 0), if_pos rfl, h]
  simp only [hused]
  rw [hsplit, List.take_left, replaceEmoji_skip, List.drop_left]
  rfl

/-- A text that names no emoji is kept. -/
theorem replaceEmoji_of_not_namesEmoji {s : List Char} (h : ¬NamesEmoji look s) :
    replaceEmoji look 0 s = s := by
  induction s using scan_induction with
  | nil => rfl
  | one c rest hone ih => rw [replaceEmoji_one hone, ih fun hn => h (.later hone hn)]
  | cut rest name selector after hcut ih =>
    obtain ⟨⟨inside, rfl⟩, _⟩ := eq_of_cutEmoji? hcut
    rw [replaceEmoji_cut hcut, ih fun hn => h (.past hcut hn)]
    cases hlook : look (lower name) with
    | none => simp
    | some e => exact absurd (.here hcut hlook) h

/-- The name of an emoji loses its colons. -/
theorem marks_replaceEmoji (hlook : ∀ n e, look n = some e → marks e = 0) (s : List Char) :
    marks (replaceEmoji look 0 s) ≤ marks s ∧
      (NamesEmoji look s → marks (replaceEmoji look 0 s) < marks s) := by
  have hcolon : marks [':'] = 1 := rfl
  -- Along the scan. A name that is known loses its colons; one that is not stays, and what follows
  -- is shorter.
  induction s using scan_induction with
  | nil => exact ⟨Nat.le_refl 0, fun h => by cases h⟩
  | one c rest hone ih =>
    rw [replaceEmoji_one hone, marks_cons c, marks_cons c rest]
    refine ⟨by omega, fun h => ?_⟩
    -- No name of an emoji begins here, so one begins later.
    have hrest : NamesEmoji look rest := by
      cases h with
      | here cut _ => rcases hone with hone | hone <;> simp_all
      | past cut _ => rcases hone with hone | hone <;> simp_all
      | later _ names => exact names
    have := ih.2 hrest
    omega
  | cut rest name selector after hcut ih =>
    obtain ⟨⟨inside, rfl⟩, hselector⟩ := eq_of_cutEmoji? hcut
    rw [replaceEmoji_cut hcut, marks_append, marks_cons ':', marks_append, marks_cons ':' after]
    cases hlook' : look (lower name) with
    | some e =>
      have := hlook _ _ hlook'
      simp only [marks_append]
      omega
    | none =>
      simp only [List.cons_append, marks_cons ':' (_ ++ _), marks_append]
      refine ⟨by omega, fun h => ?_⟩
      -- What was cut off here is not known, so one begins behind it.
      have hafter : NamesEmoji look after := by
        cases h with
        | here cut known => simp_all
        | past cut names => simp_all
        | later one _ => rcases one with one | one <;> simp_all
      have := ih.2 hafter
      omega

/-! ### Plain pieces -/

/-- Nothing in a text without tags is read. -/
structure IsPlainPiece (s : List Char) : Prop where
  noEscape : ¬HasEscape s
  noEmoji : ¬NamesEmoji Emoji.ofName? s
  noControl : ∀ c ∈ s, isControl c = false

/-- A piece in which nothing is read is shown as it is. -/
theorem shown_of_isPlainPiece {s : List Char} (h : IsPlainPiece s) : shown s = s := by
  rw [shown, unescape_of_not_hasEscape h.noEscape, replaceEmoji_of_not_namesEmoji h.noEmoji,
    dropControls, List.filter_eq_self]
  exact fun c hc => by rw [h.noControl c hc]; rfl

/-- A blank before a text changes nothing about what is read in it. -/
theorem isPlainPiece_blank {s : List Char} : IsPlainPiece (' ' :: s) ↔ IsPlainPiece s := by
  constructor
  · rintro ⟨hescape, hemoji, hcontrol⟩
    exact ⟨fun h => hescape (h.trans (List.suffix_cons ' ' s).isInfix),
      fun h => hemoji (.later (.inl (by decide)) h), fun c hc => hcontrol c (.tail ' ' hc)⟩
  · rintro ⟨hescape, hemoji, hcontrol⟩
    -- A backslash or an emoji does not begin with a blank.
    refine ⟨fun h => ?_, fun h => ?_, List.forall_mem_cons.2 ⟨by decide, hcontrol⟩⟩
    · rcases List.infix_cons_iff.1 h with h | h
      · cases (List.cons_prefix_cons.1 h).1
      · exact hescape h
    · cases h with
      | later _ names => exact hemoji names

/-- A control character is left out. -/
theorem marks_dropControls (s : List Char) : marks (dropControls s) ≤ marks s ∧
    ((∃ c ∈ s, isControl c = true) → marks (dropControls s) < marks s) := by
  refine ⟨(marks_filter _ s).1, ?_⟩
  rintro ⟨c, hc, hcontrol⟩
  exact (marks_filter _ s).2 ⟨c, hc, by rw [isMark, hcontrol, Bool.or_true], by rw [hcontrol]; rfl⟩

/-- What is shown for a piece has no more marks, and as many only if nothing is read. -/
theorem marks_shown (s : List Char) :
    marks (shown s) ≤ marks s ∧ (marks s ≤ marks (shown s) → IsPlainPiece s) := by
  have hescape := marks_unescape s
  have hlook : ∀ n e, Emoji.ofName? n = some e → marks e = 0 := fun _ _ h => Emoji.marks_ofName? h
  have hemoji := marks_replaceEmoji hlook (unescape s)
  have hcontrol := marks_dropControls (replaceEmoji Emoji.ofName? 0 (unescape s))
  rw [shown]
  refine ⟨by omega, fun hall => ?_⟩
  -- If no mark is lost, none of the three stages has lost one.
  have hnoEscape : ¬HasEscape s := fun h => by
    have := hescape.2 h
    omega
  rw [unescape_of_not_hasEscape hnoEscape] at hemoji hcontrol hall
  have hnoEmoji : ¬NamesEmoji Emoji.ofName? s := fun h => by
    have := hemoji.2 h
    omega
  rw [replaceEmoji_of_not_namesEmoji hnoEmoji] at hcontrol hall
  refine ⟨hnoEscape, hnoEmoji, fun c hc => ?_⟩
  rw [Bool.eq_false_iff]
  intro hc'
  have := hcontrol.2 ⟨c, hc, hc'⟩
  omega

/-! ### Tags -/

/-- A tag: what stands between an opening bracket and the next closing one, without a further
opening bracket, and begins as a tag. -/
def HasTag (s : List Char) : Prop :=
  ∃ before c inner after, s = before ++ '[' :: c :: inner ++ ']' :: after ∧ '[' ∉ inner ∧
    beginsTag c = true

/-- What a tag is cut from. -/
theorem eq_of_cutTag? {s inner after : List Char} (h : cutTag? s = some (inner, after)) :
    s = inner ++ ']' :: after ∧ ∃ c rest, inner = c :: rest ∧ beginsTag c = true := by
  cases s with
  | nil => cases h
  | cons c rest =>
    rw [cutTag?] at h
    split at h
    · rename_i hbegins
      -- The text up to the first closing bracket and the rest make up the whole.
      have hwhole := List.takeWhile_append_dropWhile (p := (· ≠ ']')) (l := c :: rest)
      have hc : c ≠ ']' := by
        rintro rfl
        cases hbegins
      split at h
      · cases h
      · rename_i d after' hdrop
        cases h
        have hd : d = ']' := by
          have := List.head?_dropWhile_not (· ≠ ']') (c :: rest)
          rw [hdrop] at this
          simpa using this
        rw [hdrop, hd] at hwhole
        refine ⟨hwhole.symm, c, rest.takeWhile (· ≠ ']'), ?_, hbegins⟩
        rw [List.takeWhile_cons_of_pos (by simpa using hc)]
    · cases h

/-- A tag is cut from the text behind its opening bracket. -/
theorem cutTag?_append {c : Char} {inner after : List Char} (hc : beginsTag c = true) :
    cutTag? (c :: inner ++ ']' :: after) ≠ none := by
  rw [List.cons_append, cutTag?, if_pos hc]
  split
  -- There is a closing bracket, so the text does not end before one.
  · rename_i hdrop
    have hall := List.takeWhile_append_dropWhile (p := (· ≠ ']'))
      (l := c :: (inner ++ ']' :: after))
    rw [hdrop, List.append_nil] at hall
    have hclosing : ']' ∈ c :: (inner ++ ']' :: after) := by simp
    rw [← hall] at hclosing
    simpa using List.all_eq_true.1 List.all_takeWhile _ hclosing
  · simp

/-- A text has a tag when one can be cut behind one of its opening brackets. -/
theorem hasTag_iff {s plain : List Char} {segments : List (List Char)}
    (hs : splitBy (· = '[') s = plain :: segments) :
    HasTag s ↔ ∃ segment ∈ segments, cutTag? segment ≠ none := by
  -- From a tag to the segment behind its bracket, and back.
  constructor
  · rintro ⟨before, c, inner, after, rfl, hinner, hc⟩
    have hno : ∀ d ∈ c :: inner, decide (d = '[') = false := by
      intro d hd
      rw [decide_eq_false_iff_not]
      rintro rfl
      rcases List.mem_cons.1 hd with rfl | hd
      · cases hc
      · exact hinner hd
    -- What stands before and behind the tag is split by itself.
    obtain ⟨first, others, hfirst⟩ :=
      List.exists_cons_of_ne_nil (splitBy_ne_nil (fun d => decide (d = '[')) before)
    obtain ⟨next, more, hnext⟩ :=
      List.exists_cons_of_ne_nil (splitBy_ne_nil (fun d => decide (d = '[')) after)
    rw [List.append_assoc, List.cons_append, splitBy_append_cons (by rfl), hfirst,
      splitBy_append hno, splitBy_cons (by rfl), hnext] at hs
    cases hs
    exact ⟨c :: inner ++ ']' :: next, by simp, cutTag?_append hc⟩
  · rintro ⟨segment, hmem, hcut⟩
    obtain ⟨⟨inner, after⟩, hcut⟩ := Option.ne_none_iff_exists'.1 hcut
    obtain ⟨hsegment, c, rest, rfl, hc⟩ := eq_of_cutTag? hcut
    obtain ⟨front, back, rfl⟩ := List.append_of_mem hmem
    -- A segment has no opening bracket, so neither has what is cut from it.
    have hrest : '[' ∉ rest := by
      intro hin
      have hin' : '[' ∈ segment := by
        rw [hsegment]
        simp [hin]
      have := (mem_of_mem_splitBy (hs ▸ List.mem_cons_of_mem _ hmem) hin').2
      cases this
    refine ⟨plain ++ front.flatMap ('[' :: ·), c, rest, after ++ back.flatMap ('[' :: ·), ?_,
      hrest, hc⟩
    rw [eq_of_splitBy hs, hsegment]
    simp

/-- Without tags, a text is one piece. -/
theorem tokensFrom_of_forall {segments : List (List Char)}
    (h : ∀ segment ∈ segments, cutTag? segment = none) (position : Nat) (plain : List Char) :
    tokensFrom position plain segments = [.text (plain ++ segments.flatMap ('[' :: ·))] := by
  induction segments generalizing plain with
  | nil => rw [tokensFrom, List.flatMap_nil, List.append_nil]
  | cons segment rest ih =>
    rw [tokensFrom, h segment List.mem_cons_self]
    simp only
    rw [ih fun t ht => h t (List.mem_cons_of_mem _ ht), List.flatMap_cons, List.append_assoc]

/-- The number of backslashes at the end of a text. -/
def slashesOf (s : List Char) : Nat := (s.reverse.takeWhile (· = '\\')).length

/-- A text ends in its backslashes. -/
theorem take_append_slashes (s : List Char) :
    s.take (s.length - slashesOf s) ++ List.replicate (slashesOf s) '\\' = s := by
  have hslashes : s.reverse.takeWhile (· = '\\') = List.replicate (slashesOf s) '\\' :=
    List.eq_replicate_iff.2
      ⟨rfl, fun c hc => by simpa using List.all_eq_true.1 List.all_takeWhile c hc⟩
  have hwhole :
      (s.reverse.dropWhile (· = '\\')).reverse ++ List.replicate (slashesOf s) '\\' = s := by
    rw [← List.reverse_replicate, ← hslashes, ← List.reverse_append,
      List.takeWhile_append_dropWhile, List.reverse_reverse]
  generalize (s.reverse.dropWhile (· = '\\')).reverse = kept at hwhole
  -- Only the number of backslashes and the text before them matter.
  generalize slashesOf s = n at hwhole ⊢
  subst hwhole
  simp

/-- A tag is escaped if an odd number of backslashes stands before it, of which half are shown. -/
theorem tokensFrom_cut {segment inner after : List Char} (h : cutTag? segment = some (inner, after))
    (position : Nat) (plain : List Char) (rest : List (List Char)) :
    tokensFrom position plain (segment :: rest) =
      .text (plain.take (plain.length - slashesOf plain)) ::
      .text (List.replicate (slashesOf plain / 2) '\\') ::
      (if slashesOf plain % 2 = 1 then .text ('[' :: inner ++ [']'])
        else .tag inner (position + (plain.take (plain.length - slashesOf plain)).length +
          2 * (slashesOf plain / 2))) ::
      tokensFrom (position + plain.length + inner.length + 2) after rest := by
  rw [tokensFrom, h]
  rfl

/-- The marks in the pieces among tokens. -/
def pieceMarks (tokens : List Token) : Nat :=
  (tokens.map fun
    | .text s => marks s
    | .tag _ _ => 0).sum

/-- The marks of a text come on top of the others. -/
theorem pieceMarks_text (s : List Char) (rest : List Token) :
    pieceMarks (.text s :: rest) = marks s + pieceMarks rest := rfl

/-- A tag has no marks among the pieces. -/
theorem pieceMarks_tag (inner : List Char) (position : Nat) (rest : List Token) :
    pieceMarks (.tag inner position :: rest) = pieceMarks rest := Nat.zero_add _

/-- A tag loses its brackets, or the backslash before them. -/
theorem pieceMarks_tokensFrom (position : Nat) (plain : List Char)
    (segments : List (List Char)) :
    pieceMarks (tokensFrom position plain segments) ≤
        marks (plain ++ segments.flatMap ('[' :: ·)) ∧
      ((∃ segment ∈ segments, cutTag? segment ≠ none) →
        pieceMarks (tokensFrom position plain segments) <
          marks (plain ++ segments.flatMap ('[' :: ·))) := by
  have hslash : ∀ n, marks (List.replicate n '\\') = n := fun n => by
    simp [marks, List.countP_replicate, isMark]
  -- By induction on the segments; one without a tag joins the text before it, with its bracket.
  induction segments generalizing position plain with
  | nil => simp [tokensFrom, pieceMarks]
  | cons segment rest ih =>
    cases hcut : cutTag? segment with
    | none =>
      have ih := ih position (plain ++ '[' :: segment)
      rw [tokensFrom, hcut, List.flatMap_cons, ← List.append_assoc]
      refine ⟨ih.1, ?_⟩
      rintro ⟨t, ht, htag⟩
      rcases List.mem_cons.1 ht with rfl | ht
      · exact absurd hcut htag
      · exact ih.2 ⟨t, ht, htag⟩
    | some parts =>
      obtain ⟨inner, after⟩ := parts
      obtain ⟨rfl, _⟩ := eq_of_cutTag? hcut
      have ih := (ih (position + plain.length + inner.length + 2) after).1
      have hplain := congrArg marks (take_append_slashes plain)
      have hopening := fun t => marks_cons_of_isMark (c := '[') rfl t
      have hclosing := fun t => marks_cons_of_not_isMark (c := ']') rfl t
      rw [tokensFrom_cut hcut]
      -- With an odd number of backslashes the tag is escaped, and one of them is lost; otherwise
      -- its brackets are.
      by_cases hodd : slashesOf plain % 2 = 1
      · simp only [if_pos hodd, pieceMarks_text, hslash, List.flatMap_cons, List.cons_append,
          marks_append, hopening, hclosing, marks_nil] at ih hplain ⊢
        omega
      · simp only [if_neg hodd, pieceMarks_text, pieceMarks_tag, hslash, List.flatMap_cons,
          List.cons_append, marks_append, hopening, hclosing] at ih hplain ⊢
        omega

/-- A closing tag has no style of its own. -/
theorem lookUpStyle_close (name : List Char) (position : Nat) :
    Token.lookUpStyle (.tag ('/' :: name) position) = .ok () := by
  rw [Token.lookUpStyle, List.head?_cons, if_pos rfl]

/-- The style of any other tag is looked up. -/
theorem lookUpStyle_open {inner : List Char} {t : Tag} (hslash : inner.head? ≠ some '/')
    (ht : Tag.opened inner = .ok t) (hstyle : Style.lookUp t.style = .ok ()) (position : Nat) :
    Token.lookUpStyle (.tag inner position) = .ok () := by
  rw [Token.lookUpStyle, if_neg hslash]
  exact bind_eq_ok.2 ⟨t, ht, mapError_eq_ok.2 hstyle⟩

/-! ### Texts without tags -/

/-- A text without anything to read: it has no tag, no backslash before an opening bracket, no name
of an emoji between colons, and no control character. -/
structure IsLiteral (s : List Char) : Prop extends IsPlainPiece s where
  noTag : ¬HasTag s

/-- The tokens of a text after a piece that begins at a position. -/
def tokensAfter (position : Nat) (before s : List Char) : List Token :=
  match splitBy (· = '[') s with
  | [] => []
  | plain :: segments => tokensFrom position (before ++ plain) segments

/-- A text without tags, after a piece, is one piece together with it. -/
theorem tokensAfter_of_not_hasTag {s : List Char} (h : ¬HasTag s) (position : Nat)
    (before : List Char) : tokensAfter position before s = [.text (before ++ s)] := by
  obtain ⟨plain, segments, hs⟩ :=
    List.exists_cons_of_ne_nil (splitBy_ne_nil (fun c => decide (c = '[')) s)
  have hnone : ∀ segment ∈ segments, cutTag? segment = none := fun segment hsegment =>
    Classical.not_not.1 fun hcut => h ((hasTag_iff hs).2 ⟨segment, hsegment, hcut⟩)
  simp only [tokensAfter, hs]
  rw [tokensFrom_of_forall hnone, List.append_assoc, ← eq_of_splitBy hs]

/-- A text without tags, after a piece, has no styles to look up. -/
theorem lookUpStyle_tokensAfter {s : List Char} (h : ¬HasTag s) (position : Nat)
    (before : List Char) : (tokensAfter position before s).forM Token.lookUpStyle = .ok () := by
  rw [tokensAfter_of_not_hasTag h]
  rfl

/-- A literal text has no styles to look up. -/
theorem lookUpStyles_of_isLiteral {s : List Char} (h : IsLiteral s) : lookUpStyles s = .ok () :=
  lookUpStyle_tokensAfter h.noTag 0 []

/-- A text without brackets, colons, backslashes and control characters is literal. -/
theorem isLiteral_of_marks_eq_zero {s : List Char} (h : marks s = 0) : IsLiteral s := by
  have hno := marks_eq_zero.1 h
  have hne : ∀ {c}, isMark c = true → c ∉ s := fun hc hmem => by
    rw [hno _ hmem] at hc
    cases hc
  -- A name of an emoji begins with a colon.
  have hemoji : ∀ {t}, NamesEmoji Emoji.ofName? t → ':' ∈ t := by
    intro t ht
    induction ht with
    | here cut known => exact List.mem_cons_self
    | past cut names ih => exact List.mem_cons_self
    | later one names ih => exact List.mem_cons_of_mem _ ih
  -- Each thing that could be read needs a mark of its own.
  refine ⟨⟨fun hescape => ?_, fun hn => hne rfl (hemoji hn), fun c hc => ?_⟩, ?_⟩
  · exact hne (c := '[') rfl (hescape.subset (by simp))
  · rw [Bool.eq_false_iff]
    intro hcontrol
    exact hne (by rw [isMark, hcontrol, Bool.or_true]) hc
  · rintro ⟨before, c, inner, after, rfl, _⟩
    exact hne (c := '[') rfl (by simp)

/-! ### Rendering -/

variable [Evaluation]

/-- A text is shown in front of the rest. -/
theorem render_text (opened : List Tag) (s : List Char) (rest : List Token) :
    render opened (.text s :: rest) = (render opened rest).map (shown s ++ ·) := by
  rw [render]
  cases render opened rest <;> rfl

/-- A tag that can be applied shows nothing itself. -/
theorem render_tag {opened opened' : List Tag} {inner : List Char} {position : Nat}
    (h : applyTag opened inner position = .ok opened') (rest : List Token) :
    render opened (.tag inner position :: rest) = render opened' rest := by
  rw [render, h]
  rfl

/-- What is shown behind a tag is shown with the tags that are open then. -/
theorem render_tag_eq_ok {opened : List Tag} {inner s : List Char} {position : Nat}
    {rest : List Token} (h : render opened (.tag inner position :: rest) = .ok s) :
    ∃ opened', applyTag opened inner position = .ok opened' ∧ render opened' rest = .ok s := by
  rw [render] at h
  exact bind_eq_ok.1 h

/-- A tag that is no closing one is open from then on. -/
theorem applyTag_open {inner : List Char} {t : Tag}
    (hslash : ∀ name, (Tag.ofInner inner).name ≠ '/' :: name) (ht : Tag.opened inner = .ok t)
    (opened : List Tag) (position : Nat) : applyTag opened inner position = .ok (t :: opened) := by
  unfold applyTag
  split
  · rename_i name hname
    exact absurd hname (hslash name)
  · exact bind_eq_ok.2 ⟨t, ht, rfl⟩

/-- Where no tag is open, none can be closed. -/
theorem applyTag_nil_close {inner name : List Char}
    (hname : (Tag.ofInner inner).name = '/' :: name) (opened : List Tag) (position : Nat) :
    applyTag [] inner position ≠ .ok opened := by
  intro h
  unfold applyTag at h
  rw [hname] at h
  -- A tag is closed by its name or, without one, as the last that was opened.
  by_cases hblank : trim name = []
  · simp only [if_pos hblank] at h
    cases h
  · simp only [if_neg hblank] at h
    obtain ⟨_, _, h⟩ := bind_eq_ok.1 h
    cases h

/-- A closing tag closes the latest tag if it names that and there is nothing to evaluate. -/
theorem applyTag_close {inner name : List Char} {t : Tag}
    (hname : (Tag.ofInner inner).name = '/' :: name) (hne : trim name ≠ [])
    (hstyle : Tag.canonical (trim name) = .ok t.name) (ht : t.evaluate = .ok ())
    (opened : List Tag) (position : Nat) : applyTag (t :: opened) inner position = .ok opened := by
  -- The tag in question is the latest one, so it is found and removed at once.
  have hfind : (t :: opened).find? (·.name = t.name) = some t := by
    rw [List.find?_cons_of_pos (by simp)]
  have herase : (t :: opened).eraseP (·.name = t.name) = opened := by
    rw [List.eraseP_cons_of_pos (by simp)]
  unfold applyTag
  rw [hname]
  simp only [if_neg hne]
  refine bind_eq_ok.2 ⟨t.name, hstyle, ?_⟩
  simp only [hfind, herase]
  exact bind_eq_ok.2 ⟨(), ht, rfl⟩

/-! ### What is shown -/

/-- The marks of what is shown come from the pieces. -/
theorem marks_render {opened : List Tag} {tokens : List Token} {s : List Char}
    (h : render opened tokens = .ok s) : marks s ≤ pieceMarks tokens := by
  -- By induction on the pieces; tags show nothing.
  induction tokens generalizing opened s with
  | nil =>
    cases h
    exact Nat.le_refl 0
  | cons token rest ih =>
    cases token with
    | text piece =>
      obtain ⟨after, hafter, h⟩ := bind_eq_ok.1 h
      cases h
      have hpiece := (marks_shown piece).1
      have hrest := ih hafter
      rw [marks_append, pieceMarks_text]
      omega
    | tag inner position =>
      obtain ⟨opened', _, h⟩ := bind_eq_ok.1 h
      rw [pieceMarks_tag]
      exact ih h

/-- The text that is shown for a text after a piece has no more marks than both, and as many only
if nothing in them is read. -/
theorem marks_tokensAfter {opened : List Tag} {position : Nat} {before s t : List Char}
    (h : render opened (tokensAfter position before s) = .ok t) :
    marks t ≤ marks (before ++ s) ∧
      (marks (before ++ s) ≤ marks t → ¬HasTag s ∧ IsPlainPiece (before ++ s)) := by
  obtain ⟨plain, segments, hs⟩ :=
    List.exists_cons_of_ne_nil (splitBy_ne_nil (fun c => decide (c = '[')) s)
  have hle := marks_render h
  have hpieces := pieceMarks_tokensFrom position (before ++ plain) segments
  simp only [tokensAfter, hs] at hle
  rw [List.append_assoc, ← eq_of_splitBy hs] at hpieces
  refine ⟨Nat.le_trans hle hpieces.1, fun hall => ?_⟩
  -- A tag would cost a mark.
  have hno : ¬HasTag s := by
    intro htag
    have := hpieces.2 ((hasTag_iff hs).1 htag)
    omega
  refine ⟨hno, ?_⟩
  -- Without tags there is a single piece.
  rw [tokensAfter_of_not_hasTag hno] at h
  cases h
  rw [List.append_nil] at hall
  exact (marks_shown _).2 hall

/-- A text in which nothing is read is shown as it is written. -/
theorem render_tokensAfter {before s : List Char} (htag : ¬HasTag s)
    (hpiece : IsPlainPiece (before ++ s)) (opened : List Tag) (position : Nat) :
    render opened (tokensAfter position before s) = .ok (before ++ s) := by
  rw [tokensAfter_of_not_hasTag htag, render, shown_of_isPlainPiece hpiece]
  exact bind_eq_ok.2 ⟨[], rfl, by rw [List.append_nil]; rfl⟩

/-- A text is read from its beginning, with no tag opened. -/
theorem plain_eq_render (s : List Char) : plain s = render [] (tokensAfter 0 [] s) := rfl

/-- A literal text is shown as it is written. -/
theorem plain_of_isLiteral {s : List Char} (h : IsLiteral s) : plain s = .ok s :=
  render_tokensAfter h.noTag (show IsPlainPiece ([] ++ s) from h.toIsPlainPiece) [] 0

/-- What is shown for a text has no more marks. -/
theorem marks_plain {s t : List Char} (h : plain s = .ok t) : marks t ≤ marks s := by
  rw [plain_eq_render] at h
  exact (marks_tokensAfter h).1

/-- A text of which all marks are shown is literal. -/
theorem isLiteral_of_marks {s t : List Char} (h : plain s = .ok t) (hall : marks s ≤ marks t) :
    IsLiteral s := by
  rw [plain_eq_render] at h
  obtain ⟨htag, hpiece⟩ := (marks_tokensAfter h).2 hall
  exact ⟨hpiece, htag⟩

/-- A text is shown as it is written if and only if it is literal. -/
theorem plain_eq_self_iff {s : List Char} : plain s = .ok s ↔ IsLiteral s :=
  ⟨fun h => isLiteral_of_marks h (Nat.le_refl _), plain_of_isLiteral⟩

end Egress.Markup
