import Egress.Proofs.Host.Ascii

/-!
# Names that can be read back

A host that begins with `xn--` is read back label by label. A label of letters, digits and hyphens
is read as it is, unless its hyphens are in the wrong places; a label that begins with `xn--` has to
be followed by the Punycode of a valid label.

## Key results

- `IsPlainLabel`, `checkLabel_codes_iff`: the valid ones among the ASCII labels
- `IsReadableLabel`, `labelToUnicode_iff`: the labels that can be read back
- `toUnicode_iff`: the names that can be read back
-/

namespace Egress.Host

open Egress.Text

variable {label domain : List Char}

/-! ### ASCII code points in the tables -/

-- the tables are long texts, read by recursion on their characters
set_option maxRecDepth 100000 in
/-- The entries of the table for ASCII are digits and what separates them. -/
private theorem directions_ascii : (directions.entries.all fun e =>
    0x80 ≤ e.1 || e.2.2 == .europeanSeparator || e.2.2 == .europeanNumber) = true := by
  unfold directions
  refine CodeMap.all_entries_ofText ?_
  decide +kernel

set_option maxRecDepth 100000 in
/-- No ASCII code point is a combining mark. -/
private theorem not_mark_ascii {n : Nat} (h : n ≤ 0x7F) : combiningMarks.contains n = false := by
  unfold combiningMarks
  exact CodeTable.not_contains_ofText (by decide +kernel) (Nat.zero_le n) h

/-- No ASCII code point is read from right to left. -/
theorem direction_ascii {n : Nat} (h : n < 0x80) : direction n = .leftToRight ∨
    direction n = .europeanSeparator ∨ direction n = .europeanNumber := by
  rw [direction, CodeMap.find?]
  cases hentry : directions.entry? n with
  -- What the table has for ASCII was checked entry by entry.
  | none => exact .inl rfl
  | some e =>
    have hall := Array.all_eq_true_iff_forall_mem.1 directions_ascii e
      (Array.mem_of_find?_eq_some hentry)
    have hbounds := Array.find?_some hentry
    simp only [Bool.and_eq_true, Bool.or_eq_true, decide_eq_true_eq, beq_iff_eq] at hall hbounds
    rcases hall with (hlow | hvalue) | hvalue
    · omega
    · exact .inr (.inl hvalue)
    · exact .inr (.inr hvalue)

/-! ### Labels of letters, digits and hyphens -/

/-- The rules for bidirectional text do not apply to ASCII. -/
theorem checkDirections_ascii {codes : List Nat} (h : ∀ n ∈ codes, n < 0x80) :
    checkDirections codes = .ok () := by
  -- There is neither an unknown direction nor one from right to left, so the rules have nothing to
  -- check.
  have hknown : (codes.map direction).findIdx? (· = .unknown) = none := by
    rw [List.findIdx?_eq_none_iff]
    intro d hd
    obtain ⟨n, hn, rfl⟩ := List.mem_map.1 hd
    rcases direction_ascii (h n hn) with h | h | h <;> rw [h] <;> decide
  have hleft : (codes.map direction).any Direction.isRightward = false := by
    rw [List.any_eq_false]
    intro d hd
    obtain ⟨n, hn, rfl⟩ := List.mem_map.1 hd
    rcases direction_ascii (h n hn) with h | h | h <;> rw [h] <;> decide
  simp only [checkDirections, hknown, hleft]
  rfl

/-- Small letters, digits and hyphens pass the check of code points. -/
theorem checkCodes_of_isLabelCode {all before rest : List Nat}
    (h : ∀ n ∈ rest, isLabelCode n = true) : checkCodes all before rest = .ok () := by
  induction rest generalizing before with
  | nil => rfl
  | cons n after ih =>
    obtain ⟨hn, hafter⟩ := List.forall_mem_cons.1 h
    have hvalid : isProtocolValid n = true := by
      rw [isProtocolValid, if_pos (isLabelCode_spec hn).1]
      exact hn
    rw [checkCodes, if_pos hvalid]
    exact ih hafter

/-- A label of small letters, digits and hyphens, with no hyphen at either end and not two hyphens
as the third and the fourth character. -/
structure IsPlainLabel (label : List Char) : Prop where
  nonempty : label ≠ []
  characters : ∀ c ∈ label, isLabelCode c.toNat = true
  inner : (label.drop 2).take 2 ≠ ['-', '-']
  first : label.head? ≠ some '-'
  last : label.getLast? ≠ some '-'

/-- Texts are told apart by their code points. -/
private theorem map_toNat_eq {s t : List Char} :
    s.map Char.toNat = t.map Char.toNat ↔ s = t :=
  List.map_inj_right fun _ _ => Char.toNat_inj.1

/-- Characters are told apart by their code points. -/
private theorem map_toNat_eq_some {o : Option Char} {c : Char} :
    o.map Char.toNat = some c.toNat ↔ o = some c := by
  cases o with
  | none => simp
  | some d => simp [Char.toNat_inj]

/-- ASCII code points pass the checks exactly when they are those of small letters, digits and
hyphens. -/
private theorem checks_codes_iff (hascii : ∀ c ∈ label, c.toNat < 0x80) :
    ((checkCodes (codes label) [] (codes label)).bind fun _ => checkDirections (codes label)) =
      .ok () ↔ ∀ c ∈ label, isLabelCode c.toNat = true := by
  -- The directions of ASCII are always accepted, so only the code points count.
  have hdirections : checkDirections (codes label) = .ok () :=
    checkDirections_ascii (List.forall_mem_map.2 hascii)
  rw [hdirections, bind_eq_ok]
  constructor
  · rintro ⟨_, hcodes, _⟩ c hc
    exact isLabelCode_of_checkCodes hcodes (List.mem_map_of_mem hc) (hascii c hc)
  · intro h
    exact ⟨(), checkCodes_of_isLabelCode (List.forall_mem_map.2 h), rfl⟩

/-- The valid ones among the labels of ASCII characters. -/
theorem checkLabel_codes_iff (hascii : ∀ c ∈ label, c.toNat < 0x80) :
    checkLabel (codes label) = .ok () ↔ label.length ≤ 254 ∧ IsPlainLabel label := by
  -- Each part of the check, of code points and of characters.
  have hlength : (codes label).length = label.length := List.length_map _
  have hnil : codes label = [] ↔ label = [] := List.map_eq_nil_iff
  have hnormal : normalize (codes label) = codes label := by
    refine if_pos (List.all_eq_true.2 fun n hn => ?_)
    obtain ⟨c, hc, rfl⟩ := List.mem_map.1 hn
    have := hascii c hc
    exact decide_eq_true (by omega)
  have hinner : ((codes label).drop 2).take 2 = [45, 45] ↔
      (label.drop 2).take 2 = ['-', '-'] := by
    rw [codes, ← List.map_drop, ← List.map_take, ← map_toNat_eq]
    rfl
  have hfirst : (codes label).head? = some 45 ↔ label.head? = some '-' := by
    rw [codes, List.head?_map, ← map_toNat_eq_some]
    rfl
  have hlast : (codes label).getLast? = some 45 ↔ label.getLast? = some '-' := by
    rw [codes, List.getLast?_map, ← map_toNat_eq_some]
    rfl
  have hmark : (codes label).head?.any combiningMarks.contains = false := by
    rw [codes, List.head?_map]
    cases hhead : label.head? with
    | none => rfl
    | some c =>
      have hc := hascii c (List.mem_of_mem_head? hhead)
      rw [Option.map_some, Option.any_some]
      exact not_mark_ascii (Nat.le_of_lt_succ hc)
  rw [checkLabel, guard_eq_ok, guard_eq_ok, guard_eq_ok, guard_eq_ok, guard_eq_ok, guard_eq_ok,
    checks_codes_iff hascii, hlength, hnil, hnormal, hinner, hfirst, hlast, hmark]
  constructor
  · rintro ⟨hshort, hne, _, hin, hends, _, hcharacters⟩
    rw [not_or] at hends
    exact ⟨Nat.not_lt.1 hshort, hne, hcharacters, hin, hends.1, hends.2⟩
  · rintro ⟨hshort, hne, hcharacters, hin, hf, hl⟩
    exact ⟨Nat.not_lt.2 hshort, hne, fun h => h rfl, hin, not_or.2 ⟨hf, hl⟩, Bool.false_ne_true,
      hcharacters⟩

/-! ### Labels that are read back -/

/-- A label that can be read back. -/
inductive IsReadableLabel (label : List Char) : Prop where
  | plain (plain : IsPlainLabel label)
  -- The Punycode of a valid label behind `xn--`.
  | encoded {rest : List Char} {text : List Nat} (written : label = "xn--".toList ++ rest)
    (nonempty : rest ≠ []) (last : rest.getLast? ≠ some '-')
    (decoded : Punycode.decode rest = some text) (valid : checkLabel text = .ok ())

/-- What stands behind `xn--` is read as the Punycode of a valid label. -/
theorem labelToUnicode_encoded {rest : List Char} {text : List Nat}
    (hlower : ("xn--".toList ++ rest).map Char.toLower = "xn--".toList ++ rest) :
    labelToUnicode ("xn--".toList ++ rest) = .ok text ↔ rest ≠ [] ∧ rest.getLast? ≠ some '-' ∧
      Punycode.decode rest = some text ∧ checkLabel text = .ok () := by
  rw [labelToUnicode, hlower]
  split
  · rename_i encoded h
    have hsame : "xn--".toList ++ rest = "xn--".toList ++ encoded := h
    obtain rfl := List.append_cancel_left hsame
    rw [guard_eq_ok, guard_eq_ok]
    -- The two conditions on the rest are on both sides; then it is decoded and checked.
    refine and_congr_right fun _ => and_congr_right fun _ => ?_
    cases Punycode.decode rest with
    | none =>
      refine iff_of_false (fun h => ?_) (fun h => ?_)
      · cases h
      · cases h.1
    | some decoded =>
      constructor
      · intro h
        obtain ⟨_, hvalid, rfl⟩ := map_eq_ok.1 h
        exact ⟨rfl, hvalid⟩
      · intro h
        obtain ⟨heq, hvalid⟩ := h
        cases heq
        exact map_eq_ok.2 ⟨(), hvalid, rfl⟩
  · rename_i hother
    exact absurd rfl (hother rest)

/-- A label in small letters can be read back in these two ways only. -/
theorem labelToUnicode_iff (hascii : ∀ c ∈ label, c.toNat < 0x80)
    (hlower : ∀ c ∈ label, c.toLower = c) (hlength : label.length ≤ 254) :
    (∃ text, labelToUnicode label = .ok text) ↔ IsReadableLabel label := by
  have hlower : label.map Char.toLower = label :=
    (List.map_congr_left hlower).trans (List.map_id label)
  -- The beginning decides which of the two ways it is.
  by_cases hencoded : ∃ rest, label = "xn--".toList ++ rest
  · obtain ⟨rest, hrest⟩ := hencoded
    have hread (text : List Nat) : labelToUnicode label = .ok text ↔ rest ≠ [] ∧
        rest.getLast? ≠ some '-' ∧ Punycode.decode rest = some text ∧ checkLabel text = .ok () := by
      rw [hrest] at hlower ⊢
      exact labelToUnicode_encoded hlower
    constructor
    · rintro ⟨text, h⟩
      obtain ⟨hne, hlast, hdecoded, hvalid⟩ := (hread text).1 h
      exact .encoded hrest hne hlast hdecoded hvalid
    · intro h
      cases h with
      | plain h =>
        refine absurd ?_ h.inner
        rw [hrest]
        rfl
      -- Only one text can stand behind the beginning.
      | @encoded rest' text written nonempty last decoded valid =>
        obtain rfl := List.append_cancel_left (written.symm.trans hrest)
        exact ⟨text, (hread text).2 ⟨nonempty, last, decoded, valid⟩⟩
  · have hread : labelToUnicode label = (checkLabel (codes label)).map fun _ => codes label := by
      rw [labelToUnicode, hlower]
      split
      · exact absurd ⟨_, rfl⟩ hencoded
      · rfl
    rw [hread]
    constructor
    · rintro ⟨text, h⟩
      obtain ⟨_, hvalid, _⟩ := map_eq_ok.1 h
      exact .plain ((checkLabel_codes_iff hascii).1 hvalid).2
    · intro h
      cases h with
      | plain h => exact ⟨_, map_eq_ok.2 ⟨(), (checkLabel_codes_iff hascii).2 ⟨hlength, h⟩, rfl⟩⟩
      | encoded written => exact absurd ⟨_, written⟩ hencoded

/-! ### Names that are read back -/

/-- A label is no longer than the name that it is in. -/
theorem length_le_of_mem_labelsOf (h : label ∈ (labelsOf domain).1) :
    label.length ≤ domain.length := by
  have hmem : label ∈ splitBy isLabelSeparator domain := by
    simp only [labelsOf] at h
    split at h
    · exact List.dropLast_subset _ h
    · exact h
  calc label.length ≤ (splitBy isLabelSeparator domain).flatten.length :=
        (List.sublist_flatten_of_mem hmem).length_le
    _ = (domain.filter (!isLabelSeparator ·)).length := by rw [flatten_splitBy]
    _ ≤ domain.length := List.length_filter_le _ _

/-- A name in small letters can be read back when it is not too long and each of its labels can. -/
theorem toUnicode_iff (hascii : ∀ c ∈ domain, c.toNat < 0x80)
    (hlower : ∀ c ∈ domain, c.toLower = c) (hne : domain ≠ []) :
    (∃ name, toUnicode domain = .ok name) ↔
      domain.length ≤ 254 ∧ ∀ label ∈ (labelsOf domain).1, IsReadableLabel label := by
  -- The labels of a name that is not too long are not too long.
  have hlabels : domain.length ≤ 254 → ((∃ names, (labelsOf domain).1.mapM labelToUnicode =
      .ok names) ↔ ∀ label ∈ (labelsOf domain).1, IsReadableLabel label) := by
    intro hlength
    rw [exists_mapM_eq_ok]
    refine forall₂_congr fun label hlabel => labelToUnicode_iff (fun c hc => ?_) (fun c hc => ?_) ?_
    · exact hascii c (mem_of_mem_labelsOf hlabel hc)
    · exact hlower c (mem_of_mem_labelsOf hlabel hc)
    · exact Nat.le_trans (length_le_of_mem_labelsOf hlabel) hlength
  constructor
  · rintro ⟨name, h⟩
    rw [toUnicode, guard_eq_ok, guard_eq_ok] at h
    obtain ⟨hlength, _, h⟩ := h
    obtain ⟨names, hnames, _⟩ := map_eq_ok.1 h
    have hlength := Nat.not_lt.1 hlength
    exact ⟨hlength, (hlabels hlength).1 ⟨names, hnames⟩⟩
  · rintro ⟨hlength, hall⟩
    obtain ⟨names, hnames⟩ := (hlabels hlength).2 hall
    refine ⟨joinLabels 46 names (labelsOf domain).2, ?_⟩
    rw [toUnicode, guard_eq_ok, guard_eq_ok]
    exact ⟨Nat.not_lt.2 hlength, hne, map_eq_ok.2 ⟨names, hnames, rfl⟩⟩

end Egress.Host
