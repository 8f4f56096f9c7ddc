import Egress.Proofs.Proxy.Location

/-!
# Ports of derived addresses

The range of a port is checked for `ProxyPort` only, before the address is put together as a text
and read. What counts in the end is the port that is written in that text: a `ProxyUri` may hold any
integer there, and a `ProxyHost` may end the authority before the port that was checked.

## Key results

- `Url.HasPortInRange`: the addresses that claim no other port than one of TCP
- `writtenPort`: the port of an address as it is written
- `hasPortInRange_iff`: the addresses with a port in range are those that are written with one
-/

namespace Egress

/-- The port of a URL is absent or one from 1 to 65535. -/
def Url.HasPortInRange (u : Url) : Prop := ∀ n, u.port = some n → 1 ≤ n ∧ n ≤ 65535

namespace ProxyConfiguration

open Egress.Url

variable {p : Properties} {u v : Url}

/-- The port that is written in the text of an address. -/
def writtenPort (raw : String) : List Char :=
  (WrittenAuthority.ofText (Written.ofText raw.toList).authority).port

/-- The text is written with a port that is empty or one from 1 to 65535. -/
def WritesPortInRange (raw : String) : Prop :=
  ∀ n, Number.readInt (writtenPort raw) = .ok n → 1 ≤ n ∧ n ≤ 65535

/-! ### The port that is read -/

/-- The usual ports are in range. -/
theorem usualPort?_range {scheme : String} {n : Int} (h : usualPort? scheme = some n) :
    1 ≤ n ∧ n ≤ 65535 := by
  unfold usualPort? at h
  split at h
  all_goals
    cases h
  all_goals decide

/-- What holds of the usual ports holds of a port that is read when it holds of the port in its
text. The usual port of the scheme is left out. -/
theorem forall_port_iff {P : Int → Prop} {port scheme : List Char} {r : Option Int}
    (husual : ∀ n, usualPort? (String.ofList scheme) = some n → P n)
    (h : normalPort port scheme = .ok r) :
    (∀ n, r = some n → P n) ↔ ∀ n, Number.readInt port = .ok n → P n := by
  rw [normalPort] at h
  -- There is no port in the text, or a number, which is left out if it is the usual one.
  split at h
  · rename_i hempty
    cases h
    refine iff_of_true (by simp) fun n hn => ?_
    rw [hempty] at hn
    cases hn
  · split at h
    · rename_i m hread
      rw [hread]
      split at h
      · rename_i hleft
        cases h
        refine iff_of_true (by simp) fun n hn => ?_
        cases hn
        exact husual m hleft
      · cases h
        simp
    · cases h

/-- A port is in range when it is read from a text that is. -/
theorem range_of_normalPort {port scheme : List Char} {r : Option Int}
    (h : normalPort port scheme = .ok r) :
    (∀ n, r = some n → 1 ≤ n ∧ n ≤ 65535) ↔
      ∀ n, Number.readInt port = .ok n → 1 ≤ n ∧ n ≤ 65535 :=
  forall_port_iff (fun _ => usualPort?_range) h

/-- A URL has a port in range when its text is written with one. -/
theorem hasPortInRange_of_parse {raw : String} (h : Url.parse raw = .ok u) :
    u.HasPortInRange ↔ WritesPortInRange raw :=
  range_of_normalPort (fromParts_of_parse h).port

/-- Taking out user information leaves out a port at most if it is the usual one. -/
theorem hasPortInRange_of_stripped (hu : ProxyAddress u) (h : stripped u = .ok v) :
    v.HasPortInRange ↔ u.HasPortInRange := by
  rcases eq_of_stripped hu h with ⟨_, rfl⟩ | ⟨_, rfl⟩
  · rfl
  · have hport : u.withoutUser.port = if usualPort? u.scheme = u.port then none else u.port := rfl
    rw [HasPortInRange, HasPortInRange, hport]
    split
    · rename_i husual
      exact iff_of_true (by simp) fun n hn => usualPort?_range (husual.trans hn)
    · rfl

/-! ### Hosts that keep the port in its place -/

/-- A host in which nothing ends the authority is read with the port that is written behind it. -/
theorem port_of_hostPort {host : List Char} {port : Int}
    (h : Url.parse (String.ofList (hostPortText host port)) = .ok u)
    (hends : ∀ ch ∈ host, endsAuthority ch = false) :
    normalPort (portText (some port)) "http".toList = .ok u.port := by
  by_cases hat : '@' ∈ host
  · obtain ⟨user, rest, rfl, hno⟩ := exists_last_of_mem hat
    exact (fromParts_of_userHostPort h hends hno).port
  · exact (fromParts_of_hostPort h hends hat).port

/-- So its port is in range when that port is. -/
theorem hasPortInRange_of_hostPort {host : List Char} {port : Int}
    (h : Url.parse (String.ofList (hostPortText host port)) = .ok u)
    (hends : ∀ ch ∈ host, endsAuthority ch = false) (hrange : 0 < port ∧ port < 65536) :
    u.HasPortInRange := by
  -- A port in the range is short enough to be read from its text.
  have hsmall : port.natAbs < Number.digitBound := by
    have hbound := Number.portBound_le_digitBound
    omega
  refine (range_of_normalPort (port_of_hostPort h hends)).2 fun n hn => ?_
  -- What is written is the port, so it is what is read.
  have hread : Number.readInt (portText (some port)) = .ok port := Number.readInt_toString hsmall
  cases hread.symm.trans hn
  omega

/-! ### Derived configurations -/

/-- A derived configuration has a port in range exactly when the text of its address is written with
one. A `ProxyHost` is, unless something in it ends the authority. -/
theorem hasPortInRange_iff {c : ProxyConfiguration} (h : derive p = .ok (some c)) :
    (∃ raw, AddressText p raw ∧ (c.uri.HasPortInRange ↔ WritesPortInRange raw)) ∧
      ∀ uri host, readText p .proxyUri = .ok uri → uri.getD "" = "" →
        readText p .proxyHost = .ok (some host) →
        (∀ ch ∈ host.toList, endsAuthority ch = false) → c.uri.HasPortInRange := by
  obtain ⟨_, u, haddress, _, hstripped⟩ := derive_eq_some.1 h
  obtain ⟨raw, htext, hread⟩ := address_eq_some.1 haddress
  have hparse : Url.parse raw = .ok u := (readAddress_eq_ok.1 hread).1
  have hsame := hasPortInRange_of_stripped (proxyAddress_of_readAddress hread) hstripped
  refine ⟨⟨raw, htext, hsame.trans (hasPortInRange_of_parse hparse)⟩, ?_⟩
  intro uri host huri habsent hhost hends
  -- The texts are those that were read, so the address is put together from host and port.
  cases htext with
  | uri huri' _ hgiven =>
    cases huri.symm.trans huri'
    exact absurd habsent hgiven
  | host _ hhost' _ _ _ hrange =>
    cases hhost.symm.trans hhost'
    rw [Option.getD_some, hostPortText_eq] at hparse
    exact hsame.2 (hasPortInRange_of_hostPort hparse hends hrange)

/-- User information before a host leaves the port in its place. -/
theorem hasPortInRange_of_user :
    ∃ p c, derive p = .ok (some c) ∧ c.uri.port = some 3128 ∧ c.uri.HasPortInRange := by
  have h : derive
      (.ofEntries [(.text "ProxyHost", .text "u:p@h"), (.text "ProxyPort", .int 3128)]) =
      .ok (some ⟨⟨"http", "", "h", some 3128, "", none, none⟩, some ⟨"u", "p"⟩⟩) := by
    decide +kernel
  have hends : "u:p@h".toList.all (!endsAuthority ·) = true := by decide
  refine ⟨_, _, h, rfl, ?_⟩
  exact (hasPortInRange_iff h).2 none "u:p@h" (by decide +kernel) rfl (by decide +kernel)
    (by simpa only [List.all_eq_true, Bool.not_eq_true'] using hends)

/-- Any integer may stand for a port in `ProxyUri`, and in `ProxyHost` before something that ends
the authority. -/
theorem not_hasPortInRange :
    (∃ c, derive (.ofEntries [(.text "ProxyUri", .text "http://h:70000")]) = .ok (some c) ∧
        c.uri.port = some 70000 ∧ ¬c.uri.HasPortInRange) ∧
      ∃ c, derive (.ofEntries [(.text "ProxyHost", .text "h:0/"), (.text "ProxyPort", .int 8080)]) =
        .ok (some c) ∧ c.uri.port = some 0 ∧ ¬c.uri.HasPortInRange := by
  refine ⟨⟨⟨⟨"http", "", "h", some 70000, "", none, none⟩, none⟩, by decide +kernel, rfl, ?_⟩,
    ⟨⟨"http", "", "h", some 0, "/:8080", none, none⟩, none⟩, by decide +kernel, rfl, ?_⟩
  -- Each of the two ports is outside the range.
  · intro hrange
    have := hrange 70000 rfl
    omega
  · intro hrange
    have := hrange 0 rfl
    omega

end ProxyConfiguration

end Egress
