import Egress.Header
import Egress.Proofs.Text.Trimming

/-!
# Headers and assignments as texts

A header line and an assignment are cut at their first separator. Each is read if and only if
something other than blanks stands before it. What is read is a name, without the separator and
without blanks at its ends, together with a value. Whatever is read can be written down and read
again, with any blanks around the parts that are trimmed.

## Key results

- `Header.ofLine_eq_ok_iff`, `Assignment.ofText_eq_ok_iff`: the texts that are read, and as what
- `pairs_read_as_written`: which texts are read, and that reading undoes writing
-/

namespace Egress

open Text (cut trim isBlank)

/-! ### Names before a separator -/

namespace Text

variable {sep : Char} {s name rest : List Char}

/-- Something other than blanks stands before the first separator. -/
def HasName (sep : Char) (s : List Char) : Prop :=
  ∃ before after, s = before ++ sep :: after ∧ sep ∉ before ∧ ∃ c ∈ before, isBlank c = false

/-- A text has a name when something is left of what stands before its first separator. -/
theorem hasName_iff :
    HasName sep s ↔ ∃ before after, cut sep s = some (before, after) ∧ trim before ≠ [] := by
  have hne (before : List Char) : trim before ≠ [] ↔ ∃ c ∈ before, isBlank c = false := by
    rw [Ne, trim_eq_nil_iff, IsBlanks]
    simp
  simp only [HasName, cut_eq_some_iff, hne, and_assoc]

/-- What is left of the part before the first separator is a trimmed text without separators, and
it stood between blanks. -/
theorem exists_cut_iff (hsep : isBlank sep = false) :
    (∃ before, cut sep s = some (before, rest) ∧ trim before = name) ↔
      sep ∉ name ∧ IsTrimmed name ∧
        ∃ a b, IsBlanks a ∧ IsBlanks b ∧ s = a ++ name ++ b ++ sep :: rest := by
  -- A separator that is no blank is not among the blanks.
  have hblank : ∀ {t : List Char}, IsBlanks t → sep ∉ t := by
    intro t ht hmem
    rw [ht sep hmem] at hsep
    cases hsep
  simp only [cut_eq_some_iff, trim_eq_iff]
  constructor
  · rintro ⟨_, ⟨rfl, hno⟩, hname, a, b, ha, hb, rfl⟩
    exact ⟨fun hmem => hno (by simp [hmem]), hname, a, b, ha, hb, rfl⟩
  · rintro ⟨hno, hname, a, b, ha, hb, rfl⟩
    exact ⟨_, ⟨rfl, by simp [hblank ha, hno, hblank hb]⟩, hname, a, b, ha, hb, rfl⟩

/-- A colon is no blank. -/
theorem isBlank_colon : isBlank ':' = false := by decide

/-- An equals sign is no blank. -/
theorem isBlank_equals : isBlank '=' = false := by decide

end Text

/-! ### Headers -/

namespace Header

/-- A header that a line can be read as. -/
structure IsReadable (h : Header) : Prop where
  name_ne : h.name ≠ ""
  no_colon : ':' ∉ h.name.toList
  name : Text.IsTrimmed h.name.toList
  value : Text.IsTrimmed h.value.toList

/-- A line writes a header: its name, a colon and its value, with any blanks around the name and
around the value. -/
def IsWrittenAs (h : Header) (raw : String) : Prop :=
  ∃ a b c d, Text.IsBlanks a ∧ Text.IsBlanks b ∧ Text.IsBlanks c ∧ Text.IsBlanks d ∧
    raw.toList = a ++ h.name.toList ++ b ++ ':' :: (c ++ h.value.toList ++ d)

variable {raw : String} {h : Header}

/-- A header is read off the parts around the first colon. -/
theorem ofLine_eq_ok : ofLine raw = .ok h ↔ h.name ≠ "" ∧
    ∃ after, (∃ before, cut ':' raw.toList = some (before, after) ∧ trim before = h.name.toList) ∧
      trim after = h.value.toList := by
  constructor
  · intro hread
    unfold ofLine at hread
    split at hread
    · rename_i before after hcut
      split at hread
      · cases hread
      · rename_i hne
        cases hread
        exact ⟨by simpa using hne, after, ⟨before, hcut, by simp⟩, by simp⟩
    · cases hread
  · rintro ⟨hne, after, ⟨before, hcut, hname⟩, hvalue⟩
    -- The name is not empty, so the line with these parts is accepted.
    have hleft : h.name.toList ≠ [] := by simpa using hne
    simp only [ofLine, hcut, hname, hvalue, if_neg hleft, String.ofList_toList]

/-- A line is read as a header if and only if it writes the header and the header is readable. -/
theorem ofLine_eq_ok_iff : ofLine raw = .ok h ↔ h.IsReadable ∧ h.IsWrittenAs raw := by
  simp only [ofLine_eq_ok, Text.exists_cut_iff Text.isBlank_colon]
  constructor
  · rintro ⟨hne, after, ⟨hno, hname, a, b, ha, hb, hraw⟩, hafter⟩
    obtain ⟨hvalue, c, d, hc, hd, rfl⟩ := Text.trim_eq_iff.1 hafter
    exact ⟨⟨hne, hno, hname, hvalue⟩, a, b, c, d, ha, hb, hc, hd, hraw⟩
  · rintro ⟨⟨hne, hno, hname, hvalue⟩, a, b, c, d, ha, hb, hc, hd, hraw⟩
    exact ⟨hne, _, ⟨hno, hname, a, b, ha, hb, hraw⟩, Text.trim_between hc hvalue hd⟩

/-- The usual line writes a header: one blank follows the colon. -/
theorem isWrittenAs_line (h : Header) : h.IsWrittenAs (h.name ++ ": " ++ h.value) :=
  ⟨[], [], [' '], [], Text.isBlanks_nil, Text.isBlanks_nil, List.forall_mem_singleton.2 (by decide),
    Text.isBlanks_nil, by simp⟩

/-- A line is read if and only if it has a name. -/
theorem exists_ofLine_iff : (∃ h, ofLine raw = .ok h) ↔ Text.HasName ':' raw.toList := by
  simp only [ofLine_eq_ok, Text.hasName_iff]
  constructor
  · rintro ⟨h, hne, after, ⟨before, hcut, hname⟩, _⟩
    refine ⟨before, after, hcut, ?_⟩
    rw [hname]
    simpa using hne
  · rintro ⟨before, after, hcut, hne⟩
    exact ⟨⟨String.ofList (trim before), String.ofList (trim after)⟩, by simpa using hne, after,
      ⟨before, hcut, by simp⟩, by simp⟩

end Header

/-! ### Assignments -/

namespace Assignment

/-- An assignment that a text can be read as. -/
structure IsReadable (p : Assignment) : Prop where
  key_ne : p.key ≠ ""
  no_equals : '=' ∉ p.key.toList
  key : Text.IsTrimmed p.key.toList

/-- A text writes an assignment: its key, an equals sign and its value, with any blanks around the
key. -/
def IsWrittenAs (p : Assignment) (raw : String) : Prop :=
  ∃ a b, Text.IsBlanks a ∧ Text.IsBlanks b ∧
    raw.toList = a ++ p.key.toList ++ b ++ '=' :: p.value.toList

variable {raw : String} {p : Assignment}

/-- An assignment is read off the parts around the first equals sign. -/
theorem ofText_eq_ok : ofText raw = .ok p ↔ p.key ≠ "" ∧
    ∃ before, cut '=' raw.toList = some (before, p.value.toList) ∧ trim before = p.key.toList := by
  constructor
  · intro hread
    unfold ofText at hread
    split at hread
    · rename_i before after hcut
      split at hread
      · cases hread
      · rename_i hne
        cases hread
        exact ⟨by simpa using hne, before, by simp [hcut], by simp⟩
    · cases hread
  · rintro ⟨hne, before, hcut, hkey⟩
    -- The key is not empty, so the text with these parts is accepted.
    have hleft : p.key.toList ≠ [] := by simpa using hne
    simp only [ofText, hcut, hkey, if_neg hleft, String.ofList_toList]

/-- A text is read as an assignment if and only if it writes the assignment and the assignment is
readable. -/
theorem ofText_eq_ok_iff : ofText raw = .ok p ↔ p.IsReadable ∧ p.IsWrittenAs raw := by
  simp only [ofText_eq_ok, Text.exists_cut_iff Text.isBlank_equals]
  constructor
  · rintro ⟨hne, hno, hkey, hraw⟩
    exact ⟨⟨hne, hno, hkey⟩, hraw⟩
  · rintro ⟨⟨hne, hno, hkey⟩, hraw⟩
    exact ⟨hne, hno, hkey, hraw⟩

/-- The usual text writes an assignment: no blanks surround the equals sign. -/
theorem isWrittenAs_text (p : Assignment) : p.IsWrittenAs (p.key ++ "=" ++ p.value) :=
  ⟨[], [], Text.isBlanks_nil, Text.isBlanks_nil, by simp⟩

/-- A text is read if and only if it has a key. -/
theorem exists_ofText_iff : (∃ p, ofText raw = .ok p) ↔ Text.HasName '=' raw.toList := by
  simp only [ofText_eq_ok, Text.hasName_iff]
  constructor
  · rintro ⟨p, hne, before, hcut, hkey⟩
    refine ⟨before, _, hcut, ?_⟩
    rw [hkey]
    simpa using hne
  · rintro ⟨before, after, hcut, hne⟩
    exact ⟨⟨String.ofList (trim before), String.ofList after⟩, by simpa using hne, before,
      by simp [hcut], by simp⟩

end Assignment

/-! ### Reading and writing -/

/-- A header line is read if and only if something other than blanks stands before its first colon,
and an assignment if and only if something other than blanks stands before its first equals sign. A
header is the trimmed text before that colon, not empty, and the trimmed text behind it; an
assignment is the trimmed text before that equals sign, not empty, and all that follows. Written
down, with any blanks around what is trimmed, each is read again. -/
theorem pairs_read_as_written (raw : String) :
    ((∃ h, Header.ofLine raw = .ok h) ↔ Text.HasName ':' raw.toList) ∧
    ((∃ p, Assignment.ofText raw = .ok p) ↔ Text.HasName '=' raw.toList) ∧
    (∀ h, Header.ofLine raw = .ok h → h.IsReadable ∧
      (∃ before after, raw.toList = before ++ ':' :: after ∧ ':' ∉ before ∧
        trim before = h.name.toList ∧ trim after = h.value.toList) ∧
      Header.ofLine (h.name ++ ": " ++ h.value) = .ok h ∧
      ∀ line, h.IsWrittenAs line → Header.ofLine line = .ok h) ∧
    ∀ p, Assignment.ofText raw = .ok p → p.IsReadable ∧
      (∃ before, raw.toList = before ++ '=' :: p.value.toList ∧ '=' ∉ before ∧
        trim before = p.key.toList) ∧
      Assignment.ofText (p.key ++ "=" ++ p.value) = .ok p ∧
      ∀ text, p.IsWrittenAs text → Assignment.ofText text = .ok p := by
  -- The two equivalences are about reading at all; the rest is about what was read.
  refine ⟨Header.exists_ofLine_iff, Assignment.exists_ofText_iff, fun h hread => ?_,
    fun p hread => ?_⟩
  · obtain ⟨hreadable, _⟩ := Header.ofLine_eq_ok_iff.1 hread
    obtain ⟨_, after, ⟨before, hcut, hname⟩, hvalue⟩ := Header.ofLine_eq_ok.1 hread
    obtain ⟨hraw, hno⟩ := Text.eq_of_cut_eq_some hcut
    -- The line that the header is written as is read back, whatever blanks it has.
    have hagain (line : String) (hline : h.IsWrittenAs line) : Header.ofLine line = .ok h :=
      Header.ofLine_eq_ok_iff.2 ⟨hreadable, hline⟩
    exact ⟨hreadable, ⟨before, after, hraw, hno, hname, hvalue⟩, hagain _ h.isWrittenAs_line,
      hagain⟩
  · obtain ⟨hreadable, _⟩ := Assignment.ofText_eq_ok_iff.1 hread
    obtain ⟨_, before, hcut, hkey⟩ := Assignment.ofText_eq_ok.1 hread
    obtain ⟨hraw, hno⟩ := Text.eq_of_cut_eq_some hcut
    have hagain (text : String) (htext : p.IsWrittenAs text) : Assignment.ofText text = .ok p :=
      Assignment.ofText_eq_ok_iff.2 ⟨hreadable, htext⟩
    exact ⟨hreadable, ⟨before, hraw, hno, hkey⟩, hagain _ p.isWrittenAs_text, hagain⟩

/-- Blanks of other scripts are trimmed, and the value may hold separators and blanks. -/
example : Header.ofLine "\u3000X-A\u0085:\u00a0a : b\u2028" = .ok ⟨"X-A", "a : b"⟩ ∧
    Assignment.ofText "\u1680k\x1c= v=\u2003" = .ok ⟨"k", " v=\u2003"⟩ := by decide +kernel

end Egress
