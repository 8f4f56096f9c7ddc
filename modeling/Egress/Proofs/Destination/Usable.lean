import Egress.Proofs.Destination.Address
import Egress.Proofs.Host.Readable
import Egress.Proofs.Proxy.Port

/-!
# Addresses that can be used

The characters of an address are checked when it is read, and so is its host for escapes. Whether
the host is a name that can be read back, and whether the port is one of TCP, is not checked: any
integer may stand for the port, and anything may follow `xn--`. So an address that is given need not
be one that can be used.

## Key results

- `Url.IsUsable`: addresses with a host that can be read and a port of TCP
- `Host.IsReadable`, `exists_hostName_iff`: the hosts that can be read
- `isUsable_iff`: the addresses that can be used, by the text they are read from
- `not_isUsable`: addresses that are given all the same
-/

namespace Egress

open Egress.Text Egress.Host

/-- The host of a URL can be read, and its port is absent or one from 0 to 65535. -/
structure Url.IsUsable (u : Url) : Prop where
  host : ∃ name, u.hostName = .ok name
  port : ∀ n, u.port = some n → 0 ≤ n ∧ n ≤ 65535

/-! ### Hosts -/

/-- A host that begins with `xn--` consists of labels that can be read back, and is not too long. -/
def Host.IsReadable (host : List Char) : Prop :=
  "xn--".toList <+: host →
    host.length ≤ 254 ∧ ∀ label ∈ (labelsOf host).1, IsReadableLabel label

/-- No group of an IPv6 address holds the letter that encoded labels begin with. -/
private theorem x_not_mem_of_groups {n : Nat} {groups : List (List Char)} (h : Groups n groups) :
    ∀ g ∈ groups, 'x' ∉ g := by
  -- A group is written with hexadecimal digits.
  have hhex {g : List Char} (hgroup : isGroup g = true) : 'x' ∉ g := by
    rw [isGroup, Bool.and_eq_true] at hgroup
    exact fun hx => absurd (List.all_eq_true.1 hgroup.2 'x' hx) (by decide)
  cases h with
  | hex digits => exact fun g hg => hhex (digits g hg)
  | @ipv4 groups last digits octets =>
    intro g hg hx
    rcases List.mem_append.1 hg with hg | hg
    · exact hhex (digits g hg) hx
    -- The last group is an IPv4 address, of digits and full stops.
    · cases List.mem_singleton.1 hg
      exact absurd (mem_of_isIpv4 octets hx) (by decide)

/-- There is no letter x in an address. -/
private theorem x_not_mem_of_isAddress {s : List Char} (h : IsAddress s) : 'x' ∉ s := by
  have hjoin {n : Nat} {groups : List (List Char)} (h : Groups n groups) :
      'x' ∉ joinGroups groups := by
    intro hx
    rcases mem_flatten_intersperse hx with hcolon | ⟨g, hg, hx⟩
    · exact absurd hcolon (by decide)
    · exact x_not_mem_of_groups h g hg hx
  cases h with
  | full all => exact hjoin all
  | shortened digits rest =>
    rw [List.mem_append, List.mem_append, not_or, not_or]
    exact ⟨⟨hjoin (.hex digits), by decide⟩, hjoin rest⟩

/-- The host of an address that begins with `xn--` is a name in small letters. -/
private theorem small_of_plainHost {host : List Char} (h : PlainHost host)
    (hbegins : "xn--".toList <+: host) : ∀ c ∈ host, c.toNat < 0x80 ∧ c.toLower = c := by
  cases h with
  | name characters =>
    have hall : nameCharacters.all (fun c => c.toNat < 0x80 ∧ c.toLower = c) = true := by decide
    exact fun c hc => of_decide_eq_true (List.all_eq_true.1 hall c (characters c hc))
  | address valid =>
    obtain ⟨rest, rfl⟩ := hbegins
    exact absurd (List.mem_append_left rest (by decide)) (x_not_mem_of_isAddress valid)

/-- The hosts of addresses that can be read. -/
theorem exists_hostName_iff {u : Url} (h : PlainHost u.host.toList) :
    (∃ name, u.hostName = .ok name) ↔ IsReadable u.host.toList := by
  -- Reading the name is reading its code points.
  have hcodes : (∃ name, u.hostName = .ok name) ↔ ∃ codes, u.hostCodes = .ok codes := by
    constructor
    · rintro ⟨name, hname⟩
      obtain ⟨codes, hcodes, _⟩ := map_eq_ok.1 hname
      exact ⟨codes, hcodes⟩
    · rintro ⟨codes, hcodes⟩
      exact ⟨_, map_eq_ok.2 ⟨codes, hcodes, rfl⟩⟩
  rw [hcodes, Url.hostCodes]
  split
  -- Only a name that begins as an encoded one has to be decoded.
  · rename_i hbegins
    have hbegins := List.isPrefixOf_iff_prefix.1 hbegins
    have hsmall := small_of_plainHost h hbegins
    have hne : u.host.toList ≠ [] := by
      intro hnil
      rw [hnil] at hbegins
      exact absurd (List.prefix_nil.1 hbegins) (by decide)
    rw [toUnicode_iff (fun c hc => (hsmall c hc).1) (fun c hc => (hsmall c hc).2) hne]
    exact ⟨fun hall _ => hall, fun hall => hall hbegins⟩
  · rename_i hother
    exact iff_of_true ⟨_, rfl⟩ fun hbegins => absurd (List.isPrefixOf_iff_prefix.2 hbegins) hother

/-! ### Addresses -/

/-- The text is written with a port that is empty or one from 0 to 65535. -/
def WritesTcpPort (raw : String) : Prop :=
  ∀ n, Number.readInt (ProxyConfiguration.writtenPort raw) = .ok n → 0 ≤ n ∧ n ≤ 65535

/-- An address that is given can be used exactly when its host can be read and the port that is
written in its text is one of TCP. -/
theorem Destination.isUsable_iff (d : Destination) (u : Url) (h : d.uri = .ok u) :
    ∃ raw, d.properties.readText? .url = .ok (some raw) ∧
      (u.IsUsable ↔ IsReadable u.host.toList ∧ WritesTcpPort raw) := by
  obtain ⟨raw, hread, hu⟩ := Properties.exists_of_uri h
  obtain ⟨_, _, hparse, _⟩ := readUri_eq_ok hu
  have hhost := exists_hostName_iff (plainHost_of_readUri hu).1
  -- The port of the URL is the written one or the usual one of the scheme.
  have hport : (∀ n, u.port = some n → 0 ≤ n ∧ n ≤ 65535) ↔ WritesTcpPort raw := by
    refine ProxyConfiguration.forall_port_iff (fun n hn => ?_) (Url.fromParts_of_parse hparse).port
    have := ProxyConfiguration.usualPort?_range hn
    omega
  exact ⟨raw, hread, fun ⟨hname, hrange⟩ => ⟨hhost.1 hname, hport.1 hrange⟩,
    fun ⟨hname, hrange⟩ => ⟨hhost.2 hname, hport.2 hrange⟩⟩

/-- A destination with an address and nothing else. -/
def Destination.ofAddress (address : String) : Destination :=
  ⟨.ofEntries [(.text "URL", .text address)], [], [], none⟩

/-- The address of such a destination is read from its text. -/
private theorem uri_ofAddress (address : String) {u : Url} (h : (do
      let raw ← ((Destination.ofAddress address).properties.readText? .url).toOption
      (readUri (← raw)).toOption) = some u) : (Destination.ofAddress address).uri = .ok u := by
  obtain ⟨raw, hread, h⟩ := Option.bind_eq_some_iff.1 h
  obtain ⟨text, rfl, h⟩ := Option.bind_eq_some_iff.1 h
  rw [Destination.uri, Properties.uri, toOption_eq_some.1 hread]
  simp only [toOption_eq_some.1 h]

/-- The largest port of TCP, written with a zero in front of it. -/
theorem Destination.isUsable_largest_port :
    ∃ u, (Destination.ofAddress "https://h:065535/").uri = .ok u ∧ u.port = some 65535 ∧
      u.IsUsable := by
  have hu : (Destination.ofAddress "https://h:065535/").uri =
      .ok ⟨"https", "", "h", some 65535, "/", none, none⟩ := uri_ofAddress _ (by decide +kernel)
  have hraw : (Destination.ofAddress "https://h:065535/").properties.readText? .url =
      .ok (some "https://h:065535/") := by decide +kernel
  have hport : Number.readInt (ProxyConfiguration.writtenPort "https://h:065535/") =
      .ok 65535 := by decide +kernel
  obtain ⟨raw, hread, husable⟩ := Destination.isUsable_iff _ _ hu
  cases hraw.symm.trans hread
  refine ⟨_, hu, rfl, husable.2 ⟨fun hbegins => absurd hbegins (by decide), fun n hn => ?_⟩⟩
  cases hport.symm.trans hn
  decide

/-- A negative port, a port that is too large, and a host in which nothing follows `xn--`. -/
theorem Destination.not_isUsable :
    (∃ u, (Destination.ofAddress "http://h:-1").uri = .ok u ∧ u.port = some (-1) ∧
      ¬u.IsUsable) ∧
    (∃ u, (Destination.ofAddress "http://h:70000").uri = .ok u ∧ u.port = some 70000 ∧
      ¬u.IsUsable) ∧
    ∃ u, (Destination.ofAddress "http://xn--").uri = .ok u ∧
      u.hostName = .error .emptyEncoded ∧ ¬u.IsUsable := by
  -- What cannot be read is evaluated, as are the URLs.
  have hempty : (⟨"http", "", "xn--", none, "", none, none⟩ : Url).hostName =
      .error .emptyEncoded := by decide +kernel
  refine ⟨⟨⟨"http", "", "h", some (-1), "", none, none⟩, uri_ofAddress _ (by decide +kernel), rfl,
      fun h => ?_⟩,
    ⟨⟨"http", "", "h", some 70000, "", none, none⟩, uri_ofAddress _ (by decide +kernel), rfl,
      fun h => ?_⟩,
    ⟨⟨"http", "", "xn--", none, "", none, none⟩, uri_ofAddress _ (by decide +kernel), hempty,
      fun h => ?_⟩⟩
  · exact absurd (h.port (-1) rfl).1 (by decide)
  · exact absurd (h.port 70000 rfl).2 (by decide)
  · obtain ⟨name, hname⟩ := h.host
    cases hempty.symm.trans hname

end Egress
