import Egress.Proofs.Host.LowerCase
import Egress.Proofs.Url.Stripping
import Egress.Proxy.Derivation

/-!
# The steps of a derivation

Each step of a derivation, by what it needs to succeed. An address that is accepted is a URL in
normal form with the scheme http or https and a host; taking its user information away keeps all of
that.

## Key results

- `ProxyAddress`, `proxyAddress_of_readAddress`: the invariant of accepted addresses
- `AddressText`, `address_eq_some`: the text that the address is read from
- `stripped_eq`, `eq_of_stripped`: what becomes of an accepted address without its user information
- `derive_eq_some`: what a derivation needs to give a configuration
-/

namespace Egress.ProxyConfiguration

open Egress.Url

/-! ### Accepted addresses -/

/-- The invariant of the addresses that are accepted. -/
structure ProxyAddress (u : Url) : Prop where
  -- The components are in normal form.
  normal : u.Normal
  scheme : u.scheme = "http" ∨ u.scheme = "https"
  -- The name of the host can be read and is not empty.
  name : ∃ codes, u.hostCodes = .ok codes ∧ codes ≠ []

/-- A URL with a name that can be read and is not empty has a host. -/
theorem host_ne_of_hostCodes {u : Url} {codes : List Nat} (h : u.hostCodes = .ok codes)
    (hne : codes ≠ []) : u.host ≠ "" := by
  intro hempty
  rw [hostCodes, hempty] at h
  cases h
  exact hne rfl

/-- The address of a proxy has a host. -/
theorem ProxyAddress.host {u : Url} (hu : ProxyAddress u) : u.host ≠ "" := by
  obtain ⟨_, hcodes, hne⟩ := hu.name
  exact host_ne_of_hostCodes hcodes hne

/-- An address is accepted if it is a URL with a scheme of proxies and a name that can be read. -/
theorem readAddress_eq_ok {raw : String} {u : Url} :
    readAddress raw = .ok u ↔ Url.parse raw = .ok u ∧ (u.scheme = "http" ∨ u.scheme = "https") ∧
      ∃ codes, u.hostCodes = .ok codes ∧ codes ≠ [] := by
  rw [readAddress]
  cases Url.parse raw with
  | error e => simp
  | ok v =>
    simp only [guard_eq_ok, Except.ok.injEq]
    -- The refusal of other schemes, said positively.
    have hscheme : ¬(v.scheme ≠ "http" ∧ v.scheme ≠ "https") ↔
        v.scheme = "http" ∨ v.scheme = "https" := by
      rw [Classical.not_and_iff_not_or_not, Classical.not_not, Classical.not_not]
    rw [hscheme]
    constructor
    -- The name of the host is read on the way, and must not be empty.
    · rintro ⟨hs, h⟩
      cases hcodes : v.hostCodes with
      | error e => rw [hcodes] at h; cases h
      | ok codes =>
        rw [hcodes] at h
        obtain ⟨hne, h⟩ := guard_eq_ok.1 h
        cases h
        exact ⟨rfl, hs, codes, hcodes, hne⟩
    · rintro ⟨rfl, hs, codes, hcodes, hne⟩
      refine ⟨hs, ?_⟩
      rw [hcodes]
      exact guard_eq_ok.2 ⟨hne, rfl⟩

/-- An accepted address satisfies the invariant. -/
theorem proxyAddress_of_readAddress {raw : String} {u : Url} (h : readAddress raw = .ok u) :
    ProxyAddress u := by
  obtain ⟨hparse, hscheme, hname⟩ := readAddress_eq_ok.1 h
  exact ⟨parse_normal hparse, hscheme, hname⟩

/-! ### The text of an address -/

/-- The text that an address is read from: `ProxyUri`, or else `ProxyHost` and `ProxyPort`. -/
inductive AddressText (p : Properties) : String → Prop where
  -- The address is given as a whole.
  | uri {uri host : Option String} (huri : readText p .proxyUri = .ok uri)
    (hhost : readText p .proxyHost = .ok host) (given : uri.getD "" ≠ "") :
    AddressText p (uri.getD "")
  | host {uri host : Option String} {port : Option Int} (huri : readText p .proxyUri = .ok uri)
    (hhost : readText p .proxyHost = .ok host) (absent : uri.getD "" = "")
    (given : host.getD "" ≠ "") (hport : readInteger p .proxyPort = .ok port)
    (inRange : 0 < port.getD defaultPort ∧ port.getD defaultPort < 65536) :
    AddressText p ("http://" ++ host.getD "" ++ ":" ++ toString (port.getD defaultPort))

/-- The text is that of `ProxyUri` if it is given. -/
theorem AddressText.eq_uri {p : Properties} {raw : String} (h : AddressText p raw)
    {uri : Option String} (huri : readText p .proxyUri = .ok uri) (given : uri.getD "" ≠ "") :
    raw = uri.getD "" := by
  cases h with
  | uri huri' hhost given' =>
    cases huri.symm.trans huri'
    rfl
  | host huri' hhost absent _ _ _ =>
    cases huri.symm.trans huri'
    exact absurd absent given

/-- Otherwise it is put together from `ProxyHost` and `ProxyPort`. -/
theorem AddressText.eq_host {p : Properties} {raw : String} (h : AddressText p raw)
    {uri host : Option String} {port : Option Int} (huri : readText p .proxyUri = .ok uri)
    (absent : uri.getD "" = "") (hhost : readText p .proxyHost = .ok host)
    (hport : readInteger p .proxyPort = .ok port) :
    raw = "http://" ++ host.getD "" ++ ":" ++ toString (port.getD defaultPort) ∧
      0 < port.getD defaultPort ∧ port.getD defaultPort < 65536 := by
  -- With an absent or empty `ProxyUri` only the second way remains.
  cases h with
  | uri huri' _ given =>
    cases huri.symm.trans huri'
    exact absurd absent given
  | host _ hhost' _ _ hport' inRange =>
    cases hhost.symm.trans hhost'
    cases hport.symm.trans hport'
    exact ⟨rfl, inRange⟩

/-- A port passes if it is in range. -/
theorem checkPort_eq_ok {port : Int} : checkPort port = .ok () ↔ 0 < port ∧ port < 65536 := by
  simp only [checkPort]
  split
  · rename_i h
    simp [h]
  · rename_i h
    split <;> simp [h]

/-- An address is given if the text that it is read from is accepted. -/
theorem address_eq_some {p : Properties} {u : Url} :
    address p = .ok (some u) ↔ ∃ raw, AddressText p raw ∧ readAddress raw = .ok u := by
  constructor
  · intro h
    obtain ⟨uri, huri, h⟩ := bind_eq_ok.1 h
    obtain ⟨host, hhost, h⟩ := bind_eq_ok.1 h
    -- The first text that is given decides, and is then read.
    split at h
    · rename_i hgiven
      obtain ⟨v, hv, h⟩ := bind_eq_ok.1 h
      cases h
      exact ⟨_, .uri huri hhost hgiven, hv⟩
    · rename_i habsent
      split at h
      · rename_i hgiven
        obtain ⟨port, hport, h⟩ := bind_eq_ok.1 h
        obtain ⟨_, hrange, h⟩ := bind_eq_ok.1 h
        obtain ⟨v, hv, h⟩ := bind_eq_ok.1 h
        cases h
        exact ⟨_, .host huri hhost (Classical.not_not.1 habsent) hgiven hport
          (checkPort_eq_ok.1 hrange), hv⟩
      · cases h
  · rintro ⟨raw, hraw, hu⟩
    -- Each way back through the steps.
    cases hraw with
    | uri huri hhost hgiven =>
      refine bind_eq_ok.2 ⟨_, huri, bind_eq_ok.2 ⟨_, hhost, ?_⟩⟩
      rw [if_pos hgiven]
      exact bind_eq_ok.2 ⟨u, hu, rfl⟩
    | host huri hhost habsent hgiven hport hrange =>
      refine bind_eq_ok.2 ⟨_, huri, bind_eq_ok.2 ⟨_, hhost, ?_⟩⟩
      rw [if_neg (fun hne => hne habsent), if_pos hgiven]
      exact bind_eq_ok.2 ⟨_, hport, bind_eq_ok.2 ⟨(), checkPort_eq_ok.2 hrange,
        bind_eq_ok.2 ⟨u, hu, rfl⟩⟩⟩

/-! ### Credentials -/

/-- Credentials have a user name. -/
theorem username_ne_of_credentialsFor {p : Properties} {u : Url} {k : BasicCredentials}
    (h : credentialsFor p u = .ok (some k)) : k.username ≠ "" := by
  obtain ⟨user, _, h⟩ := bind_eq_ok.1 h
  simp only at h
  -- The user of the properties comes first, then that of the address.
  split at h
  · rename_i huser
    obtain ⟨password, _, h⟩ := bind_eq_ok.1 h
    cases h
    exact huser
  · split at h
    · rename_i huser
      cases h
      exact huser
    · cases h

/-! ### User information -/

/-- What becomes of an accepted address without its user information. -/
theorem stripped_eq {u : Url} (hu : ProxyAddress u) :
    stripped u =
      if u.userinfo = "" then .ok u
      else match u.oversized with
        | some k => .error (.url (.componentTooLong k))
        | none => if u.hasFalseIpv4 then .error (.url (.ipv4 u.host)) else .ok u.withoutUser := by
  rw [stripped, withoutUserinfo_eq hu.normal hu.host]
  -- Without user information, nothing is read again.
  split
  · rfl
  · cases u.oversized with
    | some k => rfl
    | none => cases u.hasFalseIpv4 <;> rfl

/-- An accepted address without user information is kept, any other one is read again without it. -/
theorem eq_of_stripped {u v : Url} (hu : ProxyAddress u) (h : stripped u = .ok v) :
    u.userinfo = "" ∧ v = u ∨ u.userinfo ≠ "" ∧ v = u.withoutUser := by
  rw [stripped_eq hu] at h
  split at h
  · rename_i hempty
    cases h
    exact .inl ⟨hempty, rfl⟩
  · rename_i hne
    split at h
    · cases h
    · obtain ⟨_, h⟩ := guard_eq_ok.1 h
      cases h
      exact .inr ⟨hne, rfl⟩

/-- An accepted address that is written without its user information has the same scheme, a name
that can be read and is not empty, and no user information. -/
theorem stripped_spec {u v : Url} (hu : ProxyAddress u) (h : stripped u = .ok v) :
    v.scheme = u.scheme ∧ (∃ codes, v.hostCodes = .ok codes ∧ codes ≠ []) ∧ v.userinfo = "" := by
  obtain ⟨codes, hcodes, hne⟩ := hu.name
  rcases eq_of_stripped hu h with ⟨hempty, rfl⟩ | ⟨_, rfl⟩
  · exact ⟨rfl, ⟨codes, hcodes, hne⟩, hempty⟩
  · have hlowered : u.withoutUser.host.toList = Host.lowered u.host.toList := String.toList_ofList
    exact ⟨rfl, Host.hostCodes_lowered hu.normal.host hlowered hcodes hne, rfl⟩

/-! ### The derivation -/

/-- The type of the proxy is one that is available. -/
def TypeAccepted (p : Properties) : Prop :=
  ∃ type, readText p .proxyType = .ok type ∧ checkType type = .ok ()

/-- A derivation gives a configuration if each of its steps succeeds. -/
theorem derive_eq_some {p : Properties} {c : ProxyConfiguration} :
    derive p = .ok (some c) ↔ TypeAccepted p ∧ ∃ u, address p = .ok (some u) ∧
      credentialsFor p u = .ok c.credentials ∧ stripped u = .ok c.uri := by
  constructor
  · intro h
    obtain ⟨type, htype, h⟩ := bind_eq_ok.1 h
    obtain ⟨_, hcheck, h⟩ := bind_eq_ok.1 h
    obtain ⟨found, haddress, h⟩ := bind_eq_ok.1 h
    refine ⟨⟨type, htype, hcheck⟩, ?_⟩
    -- Without an address there would be no configuration.
    cases found with
    | none => cases h
    | some u =>
      obtain ⟨credentials, hcredentials, h⟩ := bind_eq_ok.1 h
      obtain ⟨v, hv, h⟩ := bind_eq_ok.1 h
      cases h
      exact ⟨u, haddress, hcredentials, hv⟩
  · rintro ⟨⟨type, htype, hcheck⟩, u, haddress, hcredentials, hstripped⟩
    simp only [derive, htype, bind, Except.bind, hcheck, haddress, hcredentials, hstripped]
    rfl

/-- A derivation reads the values under the keys, and nothing else of the properties. -/
theorem derive_congr {p q : Properties}
    (h : ∀ key : PropertyKey, p.get? (.text key.name) = q.get? (.text key.name)) :
    derive p = derive q := by
  simp only [derive, address, credentialsFor, readText, readInteger, Properties.readText?,
    Properties.readInteger?, h]

end Egress.ProxyConfiguration
