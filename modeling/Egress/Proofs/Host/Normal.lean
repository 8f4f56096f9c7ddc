import Egress.Proofs.Host.Ascii
import Egress.Proofs.Number.IntText
import Egress.Proofs.Text.LetterCase

/-!
# Hosts in normal form

The normal form of a host is either an IPv6 address, which keeps its spelling and is the only host
with a colon, or a name of safe characters whose capital letters stand in escapes. Reading a normal
form again gives it back in lower case, with one exception: a name whose encoding has given it the
look of an IPv4 address is refused. (A domain may be written with ideographic full stops, which its
encoding turns into the full stops of an address.)

## Key results

- `NormalHost`, `normalHost_normal`: the two kinds of normal forms, and that there are no others
- `normalHost_bracketed`: what becomes of a normal form that is read again
-/

namespace Egress.Host

open Egress.Text Egress.Url

/-! ### Addresses -/

/-- An IPv4 address consists of digits and full stops. -/
theorem mem_of_isIpv4 {s : List Char} (h : isIpv4 s = true) {c : Char} (hc : c ∈ s) :
    c.isDigit = true ∨ c = '.' := by
  simp only [isIpv4, Bool.and_eq_true, List.all_eq_true] at h
  rcases mem_splitBy (p := (· = '.')) hc with hdot | ⟨octet, ho, hc⟩
  · exact .inr (by simpa using hdot)
  · have hoctet := h.2 octet ho
    simp only [isOctet, Bool.and_eq_true, List.all_eq_true] at hoctet
    exact .inl (hoctet.1.1.1.2 c hc)

/-- An IPv6 address has a colon. -/
theorem colon_mem_of_isIpv6 {s : List Char} (h : isIpv6 s = true) : ':' ∈ s := by
  -- Without a colon there is a single group, which is no address.
  have hplain : ∀ t : List Char, isIpv6WithoutZone t = true → ':' ∈ t := by
    intro t ht
    refine Classical.byContradiction fun hn => ?_
    have hsplit : splitBy (· = ':') t = [t] := splitBy_of_forall fun c hc => by
      rw [decide_eq_false_iff_not]
      rintro rfl
      exact hn hc
    simp [isIpv6WithoutZone, hsplit] at ht
  rw [isIpv6] at h
  -- The zone, if there is one, stands behind the address.
  split at h
  · cases h
  · split at h
    · exact hplain s h
    · rename_i address zone hcut
      simp only [Bool.and_eq_true] at h
      rw [(eq_of_cut_eq_some hcut).1]
      exact List.mem_append.2 (.inl (hplain address h.2))

/-- A text that begins with a bracket does not look like an IPv4 address. -/
theorem looksLikeIpv4_bracket (s : List Char) : looksLikeIpv4 ('[' :: s) = false := by
  -- the bracket belongs to the first run, which holds digits only in what looks like an address
  obtain ⟨first, rest, hs⟩ :=
    List.exists_cons_of_ne_nil (splitBy_ne_nil (fun c => decide (c = '.')) s)
  have hsplit : splitBy (· = '.') ('[' :: s) = ('[' :: first) :: rest := by
    rw [splitBy_cons (by rfl), hs]
    rfl
  have hdigit : ('[' : Char).isDigit = false := by decide
  simp [looksLikeIpv4, hsplit, hdigit]

/-! ### Normal forms -/

/-- A character that a host can be written with: no control character, no end of an authority, and
no at sign. -/
def IsHostCharacter (c : Char) : Prop :=
  isControl c = false ∧ endsAuthority c = false ∧ c ≠ '@'

/-- A host in normal form. -/
inductive NormalHost (h : List Char) : Prop where
  -- A name or an IPv4 address; capital letters stand in escapes only.
  | name (safe : ∀ c ∈ h, hostSafe c = true)
    (capitals : ∀ c ∈ h, c.isUpper = true → c ∈ escapeChars)
  -- An IPv6 address.
  | ipv6 (valid : isIpv6 h = true) (plain : ∀ c ∈ h, IsHostCharacter c)

/-- A host in normal form is plainly written. -/
theorem NormalHost.plain {h : List Char} (hn : NormalHost h) {c : Char} (hc : c ∈ h) :
    IsHostCharacter c := by
  cases hn with
  | name safe _ =>
    have ⟨_, hcontrol, hend, hat, _⟩ := hostSafe_no_delimiter (safe c hc)
    exact ⟨hcontrol, hend, hat⟩
  | ipv6 _ plain => exact plain c hc

/-- A normal form without a colon is a name. -/
theorem NormalHost.safe {h : List Char} (hn : NormalHost h) (hcolon : ':' ∉ h) {c : Char}
    (hc : c ∈ h) : hostSafe c = true := by
  cases hn with
  | name safe _ => exact safe c hc
  | ipv6 valid _ => exact absurd (colon_mem_of_isIpv6 valid) hcolon

/-- The capital letters of a normal form without a colon stand in escapes. -/
theorem NormalHost.capitals {h : List Char} (hn : NormalHost h) (hcolon : ':' ∉ h) {c : Char}
    (hc : c ∈ h) (hupper : c.isUpper = true) : c ∈ escapeChars := by
  cases hn with
  | name _ capitals => exact capitals c hc hupper
  | ipv6 valid _ => exact absurd (colon_mem_of_isIpv6 valid) hcolon

/-- A normal form with a colon is an IPv6 address. -/
theorem NormalHost.isIpv6 {h : List Char} (hn : NormalHost h) (hcolon : ':' ∈ h) :
    isIpv6 h = true := by
  cases hn with
  | name safe _ => exact absurd rfl (hostSafe_no_delimiter (safe ':' hcolon)).2.2.2.2.1
  | ipv6 valid _ => exact valid

/-- Letters, digits and hyphens are safe in a host. -/
theorem hostSafe_of_isLabelCharacter {c : Char} (h : isLabelCharacter c = true) :
    hostSafe c = true := by
  simp only [isLabelCharacter, Bool.or_eq_true, decide_eq_true_eq] at h
  rcases h with h | rfl
  · simp [hostSafe, isUnreserved, h]
  · decide

/-- A text without capital letters is a name if its characters are safe. -/
private theorem NormalHost.of_small {h : List Char}
    (hsmall : ∀ c ∈ h, hostSafe c = true ∧ c.isUpper = false) : NormalHost h := by
  refine .name (fun c hc => (hsmall c hc).1) fun c hc hupper => ?_
  rw [(hsmall c hc).2] at hupper
  cases hupper

/-- The code points of labels are those of safe characters, and of no capital letters. -/
private theorem small_of_isLabelCode {c : Char} (h : isLabelCode c.toNat = true) :
    hostSafe c = true ∧ c.isUpper = false := by
  refine ⟨hostSafe_of_isLabelCharacter (isLabelCharacter_of_isLabelCode h), ?_⟩
  rw [Bool.eq_false_iff, ne_eq, isUpper_iff]
  exact (isLabelCode_spec h).2

/-- The normal form of a host that is written with characters of hosts is in normal form. -/
theorem normalHost_normal {host n : List Char} (hplain : ∀ c ∈ host, IsHostCharacter c)
    (h : normalHost host = .ok n) : NormalHost n := by
  rw [normalHost] at h
  split at h
  · cases h
    exact .of_small fun c hc => by cases hc
  · split at h
    · -- the text of an IPv4 address is its own normal form
      split at h
      · rename_i hipv4
        -- The characters of an IPv4 address are digits and full stops.
        cases h
        refine .of_small fun c hc => ?_
        rcases mem_of_isIpv4 hipv4 hc with hd | rfl
        · have hcode : isLabelCode c.toNat = true := by
            have := Number.isDigit_iff.1 hd
            simp only [isLabelCode, Bool.or_eq_true, Bool.and_eq_true, decide_eq_true_eq]
            omega
          exact small_of_isLabelCode hcode
        · decide
      · cases h
    · split at h
      · -- the text between brackets is the normal form of an IPv6 address
        simp only at h
        split at h
        · rename_i hipv6
          cases h
          refine .ipv6 hipv6 fun c hc => hplain c ?_
          exact List.mem_of_mem_drop (List.dropLast_subset _ hc)
        · cases h
      · split at h
        · -- an ASCII name is lowered before it is encoded
          cases h
          refine .name (fun c hc => safe_of_mem_encode hostSafe_escapes hc) fun c hc hupper => ?_
          -- Capital letters remain in escapes only.
          rcases mem_encode hc with ⟨hc, _⟩ | hc
          · obtain ⟨d, _, rfl⟩ := List.mem_map.1 hc
            rw [isUpper_toLower] at hupper
            cases hupper
          · exact hc
        · -- any other name is lowered before it is read as a domain
          obtain ⟨_, h⟩ := guard_eq_ok.1 h
          split at h
          · rename_i name hname
            cases h
            refine .of_small fun c hc => ?_
            rcases mem_toAscii hname hc with hc | ⟨hc, hlabel⟩ | rfl
            · exact small_of_isLabelCode hc
            · exact ⟨hostSafe_of_isLabelCharacter hlabel, not_isUpper_of_mem_lower hc⟩
            · decide
          · cases h

/-! ### Reading a normal form again -/

/-- A host as it stands in an authority: one with a colon is put into brackets. -/
def bracketed (h : List Char) : List Char := if ':' ∈ h then '[' :: h ++ [']'] else h

/-- Whether a host looks like an IPv4 address and is none. -/
def isFalseIpv4 (h : List Char) : Bool := looksLikeIpv4 h && !isIpv4 h

/-- A normal form in lower case; an IPv6 address keeps its spelling. -/
def lowered (h : List Char) : List Char := if ':' ∈ h then h else h.map Char.toLower

/-- The lower case form of a character that is safe in a host is safe in a host. -/
theorem hostSafe_toLower {c : Char} (h : hostSafe c = true) : hostSafe c.toLower = true := by
  have hlower := of_ascii (P := fun c => hostSafe c = true → hostSafe c.toLower = true)
    (by decide +kernel) (hostSafe_no_delimiter h).1
  exact hlower h

/-- Lower case keeps the length. -/
theorem length_lowered (h : List Char) : (lowered h).length = h.length := by
  rw [lowered]
  split
  · rfl
  · exact List.length_map _

/-- The lower case form of a normal form is a normal form. -/
theorem NormalHost.lowered {h : List Char} (hn : NormalHost h) : NormalHost (lowered h) := by
  rw [Host.lowered]
  split
  · exact hn
  · rename_i hcolon
    refine .name (fun c hc => ?_) (fun c hc hupper => ?_)
    -- A capital letter is safe in a host if its small letter is.
    · obtain ⟨d, hd, rfl⟩ := List.mem_map.1 hc
      exact hostSafe_toLower (hn.safe hcolon hd)
    · obtain ⟨d, _, rfl⟩ := List.mem_map.1 hc
      rw [isUpper_toLower] at hupper
      cases hupper

/-- Digits and full stops have no other lower case form. -/
theorem map_toLower_of_isIpv4 {s : List Char} (h : isIpv4 s = true) : s.map Char.toLower = s := by
  have hone : ∀ c ∈ s, c.toLower = c := by
    intro c hc
    rcases mem_of_isIpv4 h hc with hd | rfl
    · refine toLower_eq_self ?_
      rw [Bool.eq_false_iff, ne_eq, isUpper_iff]
      have := Number.isDigit_iff.1 hd
      omega
    · decide
  calc s.map Char.toLower = s.map id := List.map_congr_left hone
    _ = s := List.map_id s

/-- Reading a normal form again gives it back in lower case, unless it looks like an IPv4 address
and is none. -/
theorem normalHost_bracketed {h : List Char} (hn : NormalHost h) :
    normalHost (bracketed h) =
      if ':' ∉ h ∧ isFalseIpv4 h then .error (.ipv4 (String.ofList h)) else .ok (lowered h) := by
  by_cases hcolon : ':' ∈ h
  · -- an IPv6 address is recognised by its brackets
    have hinner : (('[' :: h ++ [']']).drop 1).dropLast = h := by simp
    have hlast : ('[' :: h ++ [']']).getLast? = some ']' := List.getLast?_concat
    have hb : bracketed h = '[' :: h ++ [']'] := if_pos hcolon
    rw [hb, normalHost, if_neg (by simp), if_neg (by simp [looksLikeIpv4_bracket]),
      if_pos ⟨rfl, hlast⟩]
    simp only [hinner, hn.isIpv6 hcolon, if_true]
    rw [if_neg (fun hc => hc.1 hcolon), lowered, if_pos hcolon]
  · have hsafe : ∀ c ∈ h, hostSafe c = true := fun c hc => hn.safe hcolon hc
    rw [bracketed, if_neg hcolon, lowered, if_neg hcolon, normalHost]
    by_cases hnil : h = []
    · subst hnil
      rfl
    · rw [if_neg hnil]
      -- Only the look of an IPv4 address can make a name fail.
      cases hlooks : looksLikeIpv4 h with
      | true =>
        cases hipv4 : isIpv4 h with
        | true => simp [isFalseIpv4, hipv4, map_toLower_of_isIpv4 hipv4]
        | false => simp [isFalseIpv4, hlooks, hipv4, hcolon]
      | false =>
        -- Safe characters are neither brackets nor outside of ASCII, so the name is read as an
        -- ASCII name, which has nothing left to escape.
        have hbracket : ¬(h.head? = some '[' ∧ h.getLast? = some ']') := by
          rintro ⟨hhead, _⟩
          have hmem : '[' ∈ h := List.mem_of_mem_head? hhead
          exact absurd rfl (hostSafe_no_delimiter (hsafe _ hmem)).2.2.2.2.2.1
        have hascii : (h.all fun c => decide (c.toNat < 128)) = true := by
          rw [List.all_eq_true]
          exact fun c hc => decide_eq_true (hostSafe_no_delimiter (hsafe c hc)).1
        have hlower : encode hostSafe (h.map Char.toLower) = h.map Char.toLower := by
          refine encode_of_all fun c hc => ?_
          obtain ⟨d, hd, rfl⟩ := List.mem_map.1 hc
          exact hostSafe_toLower (hsafe d hd)
        simp [isFalseIpv4, hlooks, hbracket, hascii, hlower]

end Egress.Host
