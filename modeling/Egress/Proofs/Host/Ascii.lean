import Egress.Host.Label
import Egress.Proofs.Outcome
import Egress.Proofs.Text.Split
import Egress.Proofs.Url.Encoding

/-!
# The ASCII form of a domain name

A domain name in its ASCII form consists of letters, digits, hyphens and full stops. A label that
is ASCII already was checked code point by code point, whether it is plain or begins with `xn--`;
any other label is written by Punycode, whose output is the basic code points of the label, hyphens
and digits in base 36. So capital letters come from the domain only.

## Key results

- `isLabelCode_of_checkLabel`: the ASCII code points of a valid label
- `Punycode.mem_encode`: Punycode adds hyphens, small letters and digits to the basic code points
- `mem_toAscii`: the characters of the ASCII form of a domain
- `mem_of_toAscii`: the ASCII characters of a domain that has such a form
-/

namespace Egress.Host

open Egress.Text

/-- The letters, digits and hyphens that ASCII labels consist of. -/
def isLabelCharacter (c : Char) : Bool := c.isAlphanum || c = '-'

/-- The code points of small letters, digits and hyphens. -/
def isLabelCode (n : Nat) : Bool :=
  n = 0x2D || (0x30 ≤ n && n ≤ 0x39) || (0x61 ≤ n && n ≤ 0x7A)

/-- The code points of labels are ASCII, and none is a capital letter. -/
theorem isLabelCode_spec {n : Nat} (h : isLabelCode n = true) : n < 0x80 ∧ ¬(65 ≤ n ∧ n ≤ 90) := by
  simp only [isLabelCode, Bool.or_eq_true, Bool.and_eq_true, decide_eq_true_eq] at h
  omega

/-- A character that is given by a code point of labels has that code point. -/
theorem toNat_of_isLabelCode {n : Nat} (h : isLabelCode n = true) : (Char.ofNat n).toNat = n := by
  have all : ∀ n : Fin 0x80, (Char.ofNat n).toNat = n := by decide
  exact all ⟨n, (isLabelCode_spec h).1⟩

/-- The character of a label's code point. -/
theorem isLabelCharacter_of_isLabelCode {c : Char} (h : isLabelCode c.toNat = true) :
    isLabelCharacter c = true := by
  have hlabel := of_ascii (P := fun c => isLabelCode c.toNat = true → isLabelCharacter c = true)
    (by decide) (isLabelCode_spec h).1
  exact hlabel h

/-- The lower case form of an ASCII character is ASCII, and one of a label only if the character
is. -/
theorem toLower_ascii {c : Char} (hc : c.toNat < 0x80) :
    c.toLower.toNat < 0x80 ∧ (isLabelCharacter c.toLower = true → isLabelCharacter c = true) :=
  of_ascii (P := fun c => c.toLower.toNat < 0x80 ∧
    (isLabelCharacter c.toLower = true → isLabelCharacter c = true)) (by decide) hc

/-! ### Valid labels -/

/-- Neither table of code points with a context holds an ASCII code point. -/
private theorem no_ascii_in_context :
    ∀ n : Fin 0x80, contextJoiner.contains n = false ∧ contextOther.contains n = false := by
  decide +kernel

/-- The ASCII code points that pass the check of code points are small letters, digits and
hyphens. -/
theorem isLabelCode_of_checkCodes {label before rest : List Nat}
    (h : checkCodes label before rest = .ok ()) {n : Nat} (hn : n ∈ rest) (hlt : n < 0x80) :
    isLabelCode n = true := by
  induction rest generalizing before with
  | nil => cases hn
  | cons m after ih =>
    rw [checkCodes] at h
    -- whichever table let the code point pass, the check goes on behind it
    have hrest : checkCodes label (m :: before) after = .ok () := by
      repeat' split at h
      all_goals first | exact h | cases h
    rcases List.mem_cons.1 hn with rfl | hn
    · have ⟨hj, ho⟩ := no_ascii_in_context ⟨n, hlt⟩
      simp only at hj ho
      by_cases hv : isProtocolValid n = true
      · simpa [isProtocolValid, isLabelCode, hlt] using hv
      · rw [if_neg hv, hj, ho] at h
        simp at h
    · exact ih hrest hn

/-- The ASCII code points of a valid label are small letters, digits and hyphens. -/
theorem isLabelCode_of_checkLabel {label : List Nat} (h : checkLabel label = .ok ()) {n : Nat}
    (hn : n ∈ label) (hlt : n < 0x80) : isLabelCode n = true := by
  simp only [checkLabel, guard_eq_ok] at h
  obtain ⟨_, _, _, _, _, _, h⟩ := h
  obtain ⟨_, hcodes, _⟩ := bind_eq_ok.1 h
  exact isLabelCode_of_checkCodes hcodes hn hlt

/-! ### Punycode -/

namespace Punycode

/-- The digits of base 36 are small letters and digits. -/
theorem isLabelCode_digitChar {d : Nat} (h : d < 36) : isLabelCode (digitChar d).toNat = true := by
  have all : ∀ d : Fin 36, isLabelCode (digitChar d).toNat = true := by decide
  exact all ⟨d, h⟩

/-- A number is written by small letters and digits. -/
theorem mem_writeDelta {bias j n : Nat} {c : Char} (h : c ∈ writeDelta bias j n) :
    isLabelCode c.toNat = true := by
  -- By strong induction on the number: the rest of its digits write a smaller one.
  induction n using Nat.strongRecOn generalizing j with
  | ind n ih =>
    rw [writeDelta] at h
    have h1 := one_le_threshold j bias
    have h26 := threshold_le j bias
    split at h
    · rw [List.mem_singleton] at h
      exact h ▸ isLabelCode_digitChar (by omega)
    · rename_i hn
      rcases List.mem_cons.1 h with rfl | h
      · have := Nat.mod_lt (n - threshold j bias) (show 36 - threshold j bias > 0 by omega)
        exact isLabelCode_digitChar (by omega)
      · refine ih _ ?_ h
        have := Nat.div_le_self (n - threshold j bias) (36 - threshold j bias)
        omega

/-- An encoder that has written small letters, digits and hyphens only. -/
def Encoder.Clean (e : Encoder) : Prop := ∀ c ∈ e.out, isLabelCode c.toNat = true

/-- Passing over a code point keeps an encoder clean. -/
theorem Encoder.Clean.see {e : Encoder} (h : e.Clean) (basic m c : Nat) :
    (e.see basic m c).Clean := by
  unfold Encoder.see
  split
  · exact h
  · split
    · intro x hx
      rcases List.mem_append.1 hx with hx | hx
      · exact h x hx
      · exact mem_writeDelta hx
    · exact h

/-- Passing over a text keeps an encoder clean. -/
theorem Encoder.Clean.foldl_see {e : Encoder} (h : e.Clean) (basic m : Nat) (text : List Nat) :
    (text.foldl (Encoder.see basic m) e).Clean := by
  induction text generalizing e with
  | nil => exact h
  | cons c rest ih => exact ih (h.see basic m c)

/-- Placing code points keeps an encoder clean. -/
theorem Encoder.Clean.foldl_place {s : Encoder × Nat} (h : s.1.Clean) (text : List Nat)
    (basic : Nat) (others : List Nat) :
    (others.foldl (Encoder.place text basic) s).1.Clean := by
  induction others generalizing s with
  | nil => exact h
  | cons m rest ih =>
    refine ih ?_
    have hs : ({ s.1 with delta := s.1.delta + (m - s.2) * (s.1.points + 1) } : Encoder).Clean := h
    exact hs.foldl_see basic m text

/-- Punycode adds hyphens, small letters and digits to the basic code points of the text. -/
theorem mem_encode {text : List Nat} {c : Char} (h : c ∈ encode text) :
    isLabelCode c.toNat = true ∨ ∃ n ∈ text, n < 0x80 ∧ c = Char.ofNat n := by
  have hclean : ∀ others : List Nat, ∀ points,
      ((others.foldl (Encoder.place text points) (⟨[], 0, 72, points⟩, 128)).1).Clean :=
    fun others points => Encoder.Clean.foldl_place (fun _ hx => by cases hx) text points others
  simp only [encode] at h
  -- Either there are no basic code points, or they come first, with a hyphen behind them.
  split at h
  · exact .inl (hclean _ _ c h)
  · rcases List.mem_append.1 h with h | h
    · obtain ⟨n, hn, rfl⟩ := List.mem_map.1 h
      obtain ⟨hn, hlt⟩ := List.mem_filter.1 hn
      exact .inr ⟨n, hn, by simpa using hlt, rfl⟩
    · rcases List.mem_cons.1 h with rfl | h
      · exact .inl (by decide)
      · exact .inl (hclean _ _ c h)

/-- Inserting code points removes none. -/
theorem subset_insertAll {text r : List Nat} {n i bias : Nat} {first : Bool} {digits : List Nat}
    (h : insertAll text n i bias first digits = some r) {m : Nat} (hm : m ∈ text) : m ∈ r := by
  fun_induction insertAll text n i bias first digits with
  | case1 => cases h; exact hm
  | case2 => cases h
  | case3 => cases h
  | case4 text n i bias first digits hd delta rest hr place n' hn at' text' ih =>
    refine ih h ?_
    -- The insertion puts a code point between the two halves of the text.
    rw [List.mem_append, List.mem_cons]
    rw [← List.take_append_drop at' text, List.mem_append] at hm
    rcases hm with hm | hm
    · exact .inl hm
    · exact .inr (.inr hm)

/-- The digits of base 36 are letters and digits. -/
theorem isAlphanum_of_digitValue? {c : Char} {d : Nat} (h : digitValue? c = some d) :
    isLabelCharacter c = true := by
  have hc : c.isAlphanum = true := by
    -- By the three ranges of digits.
    simp only [digitValue?, Char.le_def, UInt32.le_iff_toNat_le] at h
    rw [Url.isAlphanum_iff]
    split at h
    · rename_i hr
      exact .inr (.inr hr)
    · split at h
      · rename_i hr
        exact .inr (.inl hr)
      · split at h
        · rename_i hr
          exact .inl hr
        · cases h
  simp [isLabelCharacter, hc]

/-- The characters of a text that decodes are hyphens, letters, digits, or stand for themselves. -/
theorem mem_of_decode {s : List Char} {decoded : List Nat} (h : decode s = some decoded) {c : Char}
    (hc : c ∈ s) : isLabelCharacter c = true ∨ c.toNat ∈ decoded := by
  simp only [decode] at h
  obtain ⟨digits, hdigits, hinsert⟩ := Option.bind_eq_some_iff.1 h
  -- the text is what stands before the last hyphen, that hyphen, and what follows it
  rw [← List.mem_reverse, ← List.takeWhile_append_dropWhile (p := (· != '-')) (l := s.reverse),
    List.mem_append] at hc
  rcases hc with hc | hc
  · have hd := List.mem_map_of_mem (f := digitValue?) (List.mem_reverse.2 hc)
    rw [map_eq_of_mapM_some hdigits] at hd
    obtain ⟨d, _, hd⟩ := List.mem_map.1 hd
    exact .inl (isAlphanum_of_digitValue? hd.symm)
  · cases hd : s.reverse.dropWhile (· != '-') with
    | nil => rw [hd] at hc; cases hc
    | cons d rest =>
      have hd' : d = '-' := by
        have := List.head?_dropWhile_not (· != '-') s.reverse
        rw [hd] at this
        simpa using this
      rw [hd] at hc hinsert
      rcases List.mem_cons.1 hc with rfl | hc
      · exact .inl (hd' ▸ by decide)
      · refine .inr (subset_insertAll hinsert (List.mem_map.2 ⟨c, ?_, rfl⟩))
        simpa using hc

end Punycode

/-! ### Labels and domains -/

/-- A label that is read is written by letters, digits and hyphens. -/
theorem mem_of_labelToUnicode {label : List Char} {codes : List Nat}
    (h : labelToUnicode label = .ok codes) (hascii : ∀ c ∈ label, c.toNat < 0x80) {c : Char}
    (hc : c ∈ label) : isLabelCharacter c = true := by
  have ⟨hlow, hback⟩ := toLower_ascii (hascii c hc)
  refine hback ?_
  -- A label in the alphabet is so in any case, so its lower case form will do.
  have hmem : c.toLower ∈ label.map Char.toLower := List.mem_map.2 ⟨c, hc, rfl⟩
  have hcode : c.toLower.toNat ∈ codes → checkLabel codes = .ok () →
      isLabelCharacter c.toLower = true := by
    intro hin hcheck
    exact isLabelCharacter_of_isLabelCode (isLabelCode_of_checkLabel hcheck hin hlow)
  simp only [labelToUnicode] at h
  split at h
  · rename_i encoded heq
    rw [heq] at hmem
    rw [guard_eq_ok, guard_eq_ok] at h
    obtain ⟨_, _, h⟩ := h
    split at h
    · cases h
    · rename_i decoded hdecode
      obtain ⟨_, hcheck, rfl⟩ := map_eq_ok.1 h
      -- The first four characters are the prefix; the others were decoded, and what they encode was
      -- checked.
      simp only [List.mem_cons] at hmem
      rcases hmem with hx | hx | hx | hx | hx
      iterate 4 exact hx ▸ by decide
      rcases Punycode.mem_of_decode hdecode hx with hx | hx
      · exact hx
      · exact hcode hx hcheck
  · obtain ⟨_, hcheck, rfl⟩ := map_eq_ok.1 h
    exact hcode (List.mem_map.2 ⟨_, hmem, rfl⟩) hcheck

/-- The ASCII form of a label consists of small letters, digits and hyphens, and of letters, digits
and hyphens of the label. -/
theorem mem_labelToAscii {label name : List Char} (h : labelToAscii label = .ok name) {c : Char}
    (hc : c ∈ name) : isLabelCode c.toNat = true ∨ (c ∈ label ∧ isLabelCharacter c = true) := by
  rw [labelToAscii] at h
  -- A label of ASCII characters is kept; any other is encoded behind a prefix.
  split at h
  · rename_i hascii
    obtain ⟨codes, hcodes, h⟩ := bind_eq_ok.1 h
    obtain ⟨_, h⟩ := guard_eq_ok.1 h
    cases h
    exact .inr ⟨hc, mem_of_labelToUnicode hcodes (by simpa using hascii) hc⟩
  · obtain ⟨_, hcheck, h⟩ := bind_eq_ok.1 h
    obtain ⟨_, h⟩ := guard_eq_ok.1 h
    cases h
    refine .inl ?_
    rcases List.mem_append.1 hc with hc | hc
    · have all : ("xn--".toList.all fun c => isLabelCode c.toNat) = true := by decide
      exact List.all_eq_true.1 all c hc
    · rcases Punycode.mem_encode hc with hc | ⟨n, hn, hlt, rfl⟩
      · exact hc
      · have hcode := isLabelCode_of_checkLabel hcheck hn hlt
        rwa [toNat_of_isLabelCode hcode]

/-- Joined texts hold nothing but the texts and what joins them. -/
theorem mem_flatten_intersperse {sep x : α} {l : List (List α)}
    (h : x ∈ (l.intersperse [sep]).flatten) : x = sep ∨ ∃ t ∈ l, x ∈ t := by
  -- By induction on the texts; one text has nothing to be joined with.
  induction l with
  | nil => cases h
  | cons t rest ih =>
    cases rest with
    | nil => exact .inr ⟨t, by simp, by simpa using h⟩
    | cons t' rest =>
      rw [List.intersperse_cons_cons, List.flatten_cons, List.flatten_cons] at h
      simp only [List.mem_append, List.mem_singleton] at h
      rcases h with h | h | h
      · exact .inr ⟨t, by simp, h⟩
      · exact .inl h
      · rcases ih h with h | ⟨u, hu, hx⟩
        · exact .inl h
        · exact .inr ⟨u, List.mem_cons_of_mem _ hu, hx⟩

/-- Joined labels hold nothing but the labels and the full stop. -/
theorem mem_joinLabels {dot x : α} {labels : List (List α)} {trailing : Bool}
    (h : x ∈ joinLabels dot labels trailing) : x = dot ∨ ∃ label ∈ labels, x ∈ label := by
  rcases List.mem_append.1 h with h | h
  · exact mem_flatten_intersperse h
  · split at h
    · exact .inl (by simpa using h)
    · cases h

/-- A label holds nothing but characters of the domain. -/
theorem mem_of_mem_labelsOf {domain label : List Char} (h : label ∈ (labelsOf domain).1) {c : Char}
    (hc : c ∈ label) : c ∈ domain := by
  simp only [labelsOf] at h
  split at h
  · exact (mem_of_mem_splitBy (List.dropLast_subset _ h) hc).1
  · exact (mem_of_mem_splitBy h hc).1

/-- The ASCII form of a domain consists of small letters, digits, hyphens and full stops, and of
letters, digits and hyphens of the domain. -/
theorem mem_toAscii {domain name : List Char} (h : toAscii domain = .ok name) {c : Char}
    (hc : c ∈ name) :
    isLabelCode c.toNat = true ∨ (c ∈ domain ∧ isLabelCharacter c = true) ∨ c = '.' := by
  rw [toAscii, guard_eq_ok, guard_eq_ok] at h
  obtain ⟨_, _, h⟩ := h
  obtain ⟨labels, hlabels, h⟩ := bind_eq_ok.1 h
  obtain ⟨_, h⟩ := guard_eq_ok.1 h
  cases h
  -- A character of the name joins the labels or belongs to the form of one.
  rcases mem_joinLabels hc with hc | ⟨label, hl, hc⟩
  · exact .inr (.inr hc)
  · obtain ⟨l, hin, hl⟩ := exists_of_mem_mapM hlabels hl
    rcases mem_labelToAscii hl hc with hc | ⟨hc, hlabel⟩
    · exact .inl hc
    · exact .inr (.inl ⟨mem_of_mem_labelsOf hin hc, hlabel⟩)

/-- The ASCII characters of a label that has an ASCII form are letters, digits and hyphens. -/
theorem mem_of_labelToAscii {label name : List Char} (h : labelToAscii label = .ok name) {c : Char}
    (hc : c ∈ label) (hascii : c.toNat < 0x80) : isLabelCharacter c = true := by
  rw [labelToAscii] at h
  split at h
  · rename_i hall
    obtain ⟨codes, hcodes, _⟩ := bind_eq_ok.1 h
    exact mem_of_labelToUnicode hcodes (by simpa using hall) hc
  · obtain ⟨_, hcheck, _⟩ := bind_eq_ok.1 h
    have hcode : c.toNat ∈ codes label := List.mem_map_of_mem hc
    exact isLabelCharacter_of_isLabelCode (isLabelCode_of_checkLabel hcheck hcode hascii)

/-- A character of a domain separates labels or belongs to one. -/
theorem mem_labelsOf {domain : List Char} {c : Char} (hc : c ∈ domain) :
    isLabelSeparator c = true ∨ ∃ label ∈ (labelsOf domain).1, c ∈ label := by
  rcases mem_splitBy (p := isLabelSeparator) hc with hsep | ⟨label, hlabel, hc⟩
  · exact .inl hsep
  · refine .inr ⟨label, ?_, hc⟩
    simp only [labelsOf]
    split
    · -- the piece that is left out is empty
      rename_i hlast
      obtain ⟨front, hfront⟩ := List.getLast?_eq_some_iff.1 hlast
      rw [hfront] at hlabel ⊢
      rw [List.dropLast_concat]
      rcases List.mem_append.1 hlabel with hlabel | hlabel
      · exact hlabel
      · cases List.mem_singleton.1 hlabel
        cases hc
    · exact hlabel

/-- The ASCII characters of a domain that has an ASCII form are letters, digits, hyphens and full
stops. -/
theorem mem_of_toAscii {domain name : List Char} (h : toAscii domain = .ok name) {c : Char}
    (hc : c ∈ domain) (hascii : c.toNat < 0x80) : isLabelCharacter c = true ∨ c = '.' := by
  rw [toAscii, guard_eq_ok, guard_eq_ok] at h
  obtain ⟨_, _, h⟩ := h
  obtain ⟨labels, hlabels, _⟩ := bind_eq_ok.1 h
  -- A separator in ASCII is a full stop, and a character of a label was checked with it.
  rcases mem_labelsOf hc with hsep | ⟨label, hlabel, hc⟩
  · right
    simp only [isLabelSeparator, Bool.or_eq_true, decide_eq_true_eq] at hsep
    rcases hsep with ((hsep | hsep) | hsep) | hsep
    · exact hsep
    all_goals omega
  · have hlabels : (labelsOf domain).1.mapM labelToAscii = .ok labels := hlabels
    have hmem : labelToAscii label ∈ (labelsOf domain).1.map labelToAscii :=
      List.mem_map_of_mem hlabel
    rw [map_eq_of_mapM_ok hlabels] at hmem
    obtain ⟨name, _, hname⟩ := List.mem_map.1 hmem
    exact .inl (mem_of_labelToAscii hname.symm hc hascii)

end Egress.Host
