import Egress.Proofs.Builder.Contents
import Egress.Proofs.Host.Form
import Egress.Proofs.Host.Ipv6
import Egress.Proofs.Url.Path
import Egress.Proofs.Url.Written

/-!
# Addresses of destinations

The address of a destination is read from its property `URL`, whatever value that is. Reading it
fails in two ways only: the property is absent, or it holds no address. An address that is read is
written with the characters of RFC 3986, and its host is empty, a name of lower case letters,
digits and marks, or an IPv6 address without a zone.

## Key results

- `IsUriText`, `isUriText_iff`: the texts that the characters and escapes of RFC 3986 make up
- `PlainHost`, `plainHost_of_readUri`: the hosts of addresses
- `uri_outcomes`: what reading the address of a destination leads to
-/

namespace Egress

open Egress.Text Egress.Host Egress.Url

/-! ### Texts of URIs -/

/-- The characters that stand for themselves in a URI: letters, digits, marks and delimiters. -/
def uriCharacters : List Char :=
  ("ABCDEFGHIJKLMNOPQRSTUVWXYZabcdefghijklmnopqrstuvwxyz0123456789-._~" ++
    ":/?#[]@!$&'()*+,;=").toList

/-- The hexadecimal digits of either case. -/
def hexCharacters : List Char := "0123456789ABCDEFabcdef".toList

/-- A text of characters of URIs in which two hexadecimal digits follow every percent sign. -/
structure IsUriText (s : List Char) : Prop where
  characters : ∀ c ∈ s, c = '%' ∨ c ∈ uriCharacters
  escapes : ∀ before after, s = before ++ '%' :: after →
    ∃ a b rest, after = a :: b :: rest ∧ a ∈ hexCharacters ∧ b ∈ hexCharacters

/-- URIs are written in ASCII. -/
theorem lt_of_mem_uriCharacters {c : Char} (h : c ∈ uriCharacters) : c.toNat < 0x80 :=
  lt_of_contains (by decide) c (List.contains_iff_mem.2 h)

/-- The characters that are accepted are those of the table. -/
theorem isUriCharacter_iff {c : Char} : isUriCharacter c = true ↔ c ∈ uriCharacters := by
  -- Both sides hold of ASCII characters only, which are then gone through.
  have hascii : ∀ c, isUriCharacter c = true → c.toNat < 0x80 := by
    intro c hc
    simp only [isUriCharacter, isUnreserved, Bool.or_eq_true, decide_eq_true_eq] at hc
    rcases hc with ((((hc | rfl) | rfl) | rfl) | rfl) | hc
    · have := isAlphanum_iff.1 hc
      omega
    · decide
    · decide
    · decide
    · decide
    · exact lt_of_contains (by decide) c hc
  have hsame := eq_of_ascii hascii (lt_of_contains (l := uriCharacters) (by decide))
    (by decide +kernel)
  rw [← List.contains_iff_mem, hsame]

/-- The digits that are accepted are those of the table. -/
theorem isSome_hexValue?_iff {c : Char} : (hexValue? c).isSome = true ↔ c ∈ hexCharacters := by
  -- As above: the digits are ASCII, and ASCII is gone through.
  have hascii : ∀ c, (hexValue? c).isSome = true → c.toNat < 0x80 := by
    intro c hc
    have hle : ∀ d : Char, c ≤ d → c.toNat ≤ d.toNat := fun d hd => by
      simpa [Char.le_def, UInt32.le_iff_toNat_le] using hd
    simp only [hexValue?] at hc
    split at hc
    · rename_i h
      exact Nat.lt_of_le_of_lt (hle _ h.2) (by decide)
    · split at hc
      · rename_i h
        exact Nat.lt_of_le_of_lt (hle _ h.2) (by decide)
      · split at hc
        · rename_i h
          exact Nat.lt_of_le_of_lt (hle _ h.2) (by decide)
        · cases hc
  have hsame := eq_of_ascii hascii (lt_of_contains (l := hexCharacters) (by decide))
    (by decide +kernel)
  rw [← List.contains_iff_mem, hsame]

/-- The percent sign does not stand for itself. -/
theorem percent_not_mem_uriCharacters : '%' ∉ uriCharacters := by decide

/-- A hexadecimal digit stands for itself. -/
theorem uriCharacter_of_hexCharacter {c : Char} (h : c ∈ hexCharacters) : c ∈ uriCharacters := by
  have all : hexCharacters.all uriCharacters.contains = true := by decide +kernel
  exact List.contains_iff_mem.1 (List.all_eq_true.1 all c h)

theorem isUriText_nil : IsUriText [] :=
  ⟨fun c hc => (nomatch hc), fun before after h => by cases before <;> cases h⟩

/-- One more character that stands for itself. -/
theorem isUriText_cons {c : Char} {s : List Char} (hc : c ≠ '%') :
    IsUriText (c :: s) ↔ c ∈ uriCharacters ∧ IsUriText s := by
  constructor
  · rintro ⟨hcharacters, hescapes⟩
    refine ⟨(hcharacters c List.mem_cons_self).resolve_left hc,
      fun d hd => hcharacters d (List.mem_cons_of_mem c hd), ?_⟩
    rintro before after rfl
    exact hescapes (c :: before) after rfl
  · rintro ⟨hmem, hcharacters, hescapes⟩
    refine ⟨by simpa using ⟨.inr hmem, hcharacters⟩, ?_⟩
    -- A percent sign is never the first character, so an escape begins in what follows.
    intro before after h
    cases before with
    | nil => exact absurd (List.cons.inj h).1 hc
    | cons d rest => exact hescapes rest after (List.cons.inj h).2

/-- One more escape. -/
theorem isUriText_escape {a b : Char} {s : List Char} :
    IsUriText ('%' :: a :: b :: s) ↔ a ∈ hexCharacters ∧ b ∈ hexCharacters ∧ IsUriText s := by
  have hne : ∀ {c}, c ∈ hexCharacters → c ≠ '%' := by
    rintro c hc rfl
    exact percent_not_mem_uriCharacters (uriCharacter_of_hexCharacter hc)
  constructor
  · rintro ⟨hcharacters, hescapes⟩
    obtain ⟨_, _, _, heq, ha, hb⟩ := hescapes [] _ rfl
    cases heq
    refine ⟨ha, hb, fun c hc => hcharacters c (by simp [hc]), ?_⟩
    rintro before after rfl
    exact hescapes ('%' :: a :: b :: before) after rfl
  · rintro ⟨ha, hb, hs⟩
    -- The digits of an escape stand for themselves, so they may be put in front one by one.
    have htail : IsUriText (a :: b :: s) :=
      (isUriText_cons (hne ha)).2 ⟨uriCharacter_of_hexCharacter ha,
        (isUriText_cons (hne hb)).2 ⟨uriCharacter_of_hexCharacter hb, hs⟩⟩
    refine ⟨by simpa using htail.characters, ?_⟩
    intro before after h
    cases before with
    | nil =>
      cases h
      exact ⟨a, b, s, rfl, ha, hb⟩
    | cons d rest => exact htail.escapes rest after (List.cons.inj h).2

/-- The texts that are accepted are the texts of URIs. -/
theorem isUriText_iff {s : List Char} : isUriText s = true ↔ IsUriText s := by
  -- Along the scan: the end, an escape, and any other character.
  fun_induction isUriText s with
  | case1 => simp [isUriText_nil]
  | case2 a b rest ih =>
    rw [Bool.and_eq_true, Bool.and_eq_true, isSome_hexValue?_iff, isSome_hexValue?_iff, ih,
      isUriText_escape, and_assoc]
  | case3 c rest hno ih =>
    rw [Bool.and_eq_true, isUriCharacter_iff, ih]
    -- A percent sign that begins no escape is excluded on both sides.
    by_cases hc : c = '%'
    · subst hc
      refine ⟨fun h => absurd h.1 percent_not_mem_uriCharacters, fun h => ?_⟩
      obtain ⟨a, b, more, heq, _⟩ := h.escapes [] rest rfl
      exact absurd heq (hno a b more rfl)
    · exact (isUriText_cons hc).symm

/-! ### Hosts without escapes -/

/-- The characters of names of hosts: small letters, digits and marks. -/
def nameCharacters : List Char := "abcdefghijklmnopqrstuvwxyz0123456789-._~!$&'()*+,;=".toList

/-- A host without escapes. -/
inductive PlainHost (h : List Char) : Prop where
  -- A name, which may be empty, or an IPv4 address.
  | name (characters : ∀ c ∈ h, c ∈ nameCharacters)
  -- An IPv6 address without a zone.
  | address (valid : IsAddress h)

/-- A test that the characters of URIs pass, one by one. -/
private theorem of_mem_uriCharacters {p : Char → Bool} (h : uriCharacters.all p = true) {c : Char}
    (hc : c ∈ uriCharacters) : p c = true := List.all_eq_true.1 h c hc

/-- A host that is written with characters of URIs is plain, and in lower case, if its normal form
holds no escape. -/
theorem plainHost_of_isFormOf {written host : List Char}
    (hchars : ∀ c ∈ written, c = '%' ∨ c ∈ uriCharacters) (h : IsFormOf written host)
    (hpercent : '%' ∉ host) : PlainHost host ∧ lowered host = host := by
  cases h with
  | address brackets valid =>
    exact ⟨.address (isAddress_of_isIpv6 valid hpercent), if_pos (colon_mem_of_isIpv6 valid)⟩
  | name ascii escaped =>
    -- a name is lowered, and nothing in it was encoded
    have hsafe : ∀ c ∈ host, hostSafe c = true := by
      intro c hc
      rw [escaped] at hc
      exact safe_of_mem_encode hostSafe_escapes hc
    have hsame : host = written.map Char.toLower := by
      rw [escaped] at hpercent
      rw [escaped, encode_of_no_percent hpercent]
    refine ⟨.name fun c hc => ?_, ?_⟩
    · have hone := hsafe c hc
      rw [hsame] at hc hpercent
      obtain ⟨d, hd, rfl⟩ := List.mem_map.1 hc
      have huri : d ∈ uriCharacters := by
        refine (hchars d hd).resolve_left ?_
        rintro rfl
        exact hpercent hc
      have hname := of_mem_uriCharacters
        (p := fun d => !hostSafe d.toLower || nameCharacters.contains d.toLower)
        (by decide +kernel) huri
      simpa [hone] using hname
    · rw [hsame, lowered, map_toLower_map_toLower, ite_self]
  | international outside encoded =>
    -- the characters of URIs are ASCII
    obtain ⟨c, hc, hlarge⟩ := outside
    rcases hchars c hc with rfl | huri
    · exact absurd hlarge (by decide)
    · exact absurd (lt_of_mem_uriCharacters huri) (Nat.not_lt.2 hlarge)

/-- An address is a text of a URI that is read as a URL whose host holds no escape. -/
theorem readUri_eq_ok {raw : String} {u : Url} (h : readUri raw = .ok u) :
    raw ≠ "" ∧ IsUriText raw.toList ∧ parse raw = .ok u ∧ '%' ∉ u.host.toList := by
  rw [readUri, guard_eq_ok] at h
  obtain ⟨hraw, h⟩ := h
  rw [not_or, Bool.not_eq_true', Bool.not_eq_false, isUriText_iff] at hraw
  obtain ⟨hne, htext⟩ := hraw
  split at h
  · cases h
  · rename_i v hparse
    obtain ⟨hpercent, hv⟩ := guard_eq_ok.1 h
    cases hv
    exact ⟨hne, htext, hparse, by simpa using hpercent⟩

/-- The host of an address is plain, and in lower case. -/
theorem plainHost_of_readUri {raw : String} {u : Url} (h : readUri raw = .ok u) :
    PlainHost u.host.toList ∧ lowered u.host.toList = u.host.toList := by
  obtain ⟨_, htext, hparse, hpercent⟩ := readUri_eq_ok h
  refine plainHost_of_isFormOf (fun c hc => ?_)
    (isFormOf_normalHost (fromParts_of_parse hparse).host) hpercent
  exact htext.characters c (mem_authority_ofText (mem_host_ofText hc).1).1

/-! ### Outcomes -/

/-- No text is read exactly when nothing is found. -/
theorem Properties.readText?_eq_none {p : Properties} {key : PropertyKey} :
    p.readText? key = .ok none ↔ p.get? (.text key.name) = none := by
  rw [readText?]
  split
  · rename_i hnone
    exact iff_of_true rfl hnone
  · rename_i v hsome
    rw [hsome]
    split <;> exact iff_of_false nofun nofun

/-- An address is given for a text that is read as one. -/
theorem Properties.exists_of_uri {p : Properties} {u : Url} (h : p.uri = .ok u) :
    ∃ raw, p.readText? .url = .ok (some raw) ∧ readUri raw = .ok u := by
  rw [uri] at h
  split at h
  · cases h
  · cases h
  · rename_i raw hread
    refine ⟨raw, hread, ?_⟩
    split at h
    · rename_i hu
      cases h
      exact hu
    · cases h

/-- No address is given when nothing is found, or when what is found is no address. -/
theorem Properties.uri_eq_error {p : Properties} {e : DestinationError} (h : p.uri = .error e) :
    (e = .missing .url ∧ p.get? (.text PropertyKey.url.name) = none) ∨
      ((p.get? (.text PropertyKey.url.name)).isSome ∧ ∃ fault, e = .malformedUri fault) := by
  -- Whenever reading does not say that there is nothing, something is there.
  have hsome : p.readText? .url ≠ .ok none → (p.get? (.text PropertyKey.url.name)).isSome := by
    intro hne
    rw [Option.isSome_iff_ne_none]
    exact mt readText?_eq_none.2 hne
  rw [uri] at h
  split at h
  · rename_i fault hread
    cases h
    exact .inr ⟨hsome (by rw [hread]; exact nofun), _, rfl⟩
  · rename_i hread
    cases h
    exact .inl ⟨rfl, readText?_eq_none.1 hread⟩
  · rename_i raw hread
    split at h
    · cases h
    · cases h
      exact .inr ⟨hsome (by rw [hread]; exact nofun), _, rfl⟩

/-- A destination gives its address, or says that the address is absent exactly when it is, or that
what is there is no address. An address that is given is written with characters of URIs, and its
host holds no escape. The address of a destination that was built is never absent. -/
theorem Destination.uri_outcomes (d : Destination) :
    (d.uri = .error (.missing .url) ↔
      d.properties.get? (.text PropertyKey.url.name) = none) ∧
    (∀ e, d.uri = .error e → e = .missing .url ∨ ∃ fault, e = .malformedUri fault) ∧
    (∀ u, d.uri = .ok u → ∃ raw, d.properties.readText? .url = .ok (some raw) ∧ raw ≠ "" ∧
      IsUriText raw.toList ∧ PlainHost u.host.toList) ∧
    (∀ (ε : Type) (b : Builder) (look : Value → Value)
      (derive : Properties → Logged ε (Option ProxyConfiguration)),
      (b.withAddress.build look derive).result = .ok d → d.uri ≠ .error (.missing .url)) := by
  have hmissing : d.uri = .error (.missing .url) →
      d.properties.get? (.text PropertyKey.url.name) = none := by
    intro h
    rcases Properties.uri_eq_error h with ⟨_, hnone⟩ | ⟨_, fault, hfault⟩
    · exact hnone
    · cases hfault
  -- An absent address, the other errors, an address that is given, and what builders build.
  refine ⟨⟨hmissing, fun hnone => ?_⟩, fun e h => ?_, fun u h => ?_, fun ε b look derive h => ?_⟩
  · rw [Destination.uri, Properties.uri, Properties.readText?_eq_none.2 hnone]
  · rcases Properties.uri_eq_error h with ⟨he, _⟩ | ⟨_, hfault⟩
    · exact .inl he
    · exact .inr hfault
  · obtain ⟨raw, hread, hu⟩ := Properties.exists_of_uri h
    obtain ⟨hne, htext, _⟩ := readUri_eq_ok hu
    exact ⟨raw, hread, hne, htext, (plainHost_of_readUri hu).1⟩
  · intro habsent
    obtain ⟨proxy, _, rfl⟩ := Builder.build_eq_ok.1 h
    -- A builder with its address set has something under the name.
    have hnone := hmissing habsent
    rw [Draft.get?_build, Option.map_eq_none_iff] at hnone
    have hsome := b.isSome_withAddress
    rw [hnone] at hsome
    cases hsome

/-- The address of a loopback host, with an escape in its path. -/
theorem Destination.uri_outcomes_loopback :
    let d : Destination :=
      ⟨.ofEntries [(.text "URL", .text "http://[::1]:8080/a%20b")], [], [], none⟩
    ∃ u, d.uri = .ok u ∧ ∃ raw, d.properties.readText? .url = .ok (some raw) ∧ raw ≠ "" ∧
      IsUriText raw.toList ∧ PlainHost u.host.toList := by
  intro d
  -- The text is read and parsed by evaluation, and the theorem says the rest.
  have hread : d.properties.readText? .url = .ok (some "http://[::1]:8080/a%20b") := by
    decide +kernel
  have hurl : readUri "http://[::1]:8080/a%20b" =
      .ok ⟨"http", "", "::1", some 8080, "/a%20b", none, none⟩ := by decide +kernel
  have hu : d.uri = .ok ⟨"http", "", "::1", some 8080, "/a%20b", none, none⟩ := by
    rw [Destination.uri, Properties.uri, hread]
    simp only [hurl]
  exact ⟨_, hu, (Destination.uri_outcomes d).2.2.1 _ hu⟩

end Egress
