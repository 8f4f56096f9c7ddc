import Egress.Proofs.Proxy.Derivation

/-!
# How a derivation can end

A derivation is meant to end in one of three ways, each with its own records: without a proxy, with
a configuration, or with a `ProxyError`. It does so unless it *escapes*: the port that is out of
range is too long to be shown, the name of the host cannot be read, or the address cannot be
written without its user information.

## Key results

- `AsPromised`: the three ways
- `escaped_bind` and the lemmas after it: which step escapes when
- `Escapes`, `asPromised_iff`: the derivations that end in another way
-/

namespace Egress.ProxyConfiguration

open Egress.Url

/-- An outcome that is neither a value nor a `ProxyError`. -/
def Escaped (x : Except DerivationError α) : Prop :=
  ∃ e, x = .error e ∧ ∀ f, e ≠ .proxy f

/-- A derivation that ends in one of the three ways, with the record that belongs to it: none
without a proxy, one for tracing with a configuration, and one warning with a `ProxyError`. -/
inductive AsPromised : Logged DerivationError (Option ProxyConfiguration) → Prop where
  -- There is no proxy.
  | absent : AsPromised ⟨[], .ok none⟩
  | derived (c : ProxyConfiguration) (message : String) :
    AsPromised ⟨[⟨.debug, .proxy, message⟩], .ok (some c)⟩
  | failed (e : ProxyError) (message : String) :
    AsPromised ⟨[⟨.warning, .proxy, message⟩], .error (.proxy e)⟩

/-- A derivation ends as promised unless its outcome is neither a value nor a `ProxyError`. -/
theorem asPromised_iff_not_escaped (p : Properties) :
    AsPromised (deriveLogged p) ↔ ¬Escaped (derive p) := by
  rw [deriveLogged]
  cases derive p with
  | ok found =>
    refine ⟨fun _ hesc => ?_, fun _ => ?_⟩
    · obtain ⟨e, he, _⟩ := hesc
      cases he
    · cases found with
      | none => exact .absent
      | some c => exact .derived c _
  | error e =>
    -- Of the errors, the first kind is promised; the others are neither logged nor wrapped.
    cases e with
    | proxy f =>
      refine ⟨fun _ hesc => ?_, fun _ => .failed f _⟩
      obtain ⟨e, he, hne⟩ := hesc
      cases he
      exact hne f rfl
    | hostName f =>
      refine ⟨fun h => ?_, fun h => absurd ⟨_, rfl, by simp⟩ h⟩
      cases h
    | url f =>
      refine ⟨fun h => ?_, fun h => absurd ⟨_, rfl, by simp⟩ h⟩
      cases h
    | portDigits =>
      refine ⟨fun h => ?_, fun h => absurd ⟨_, rfl, by simp⟩ h⟩
      cases h

/-! ### Steps that escape -/

/-- A value does not escape. -/
theorem not_escaped_ok (a : α) : ¬Escaped (.ok a) := by
  rintro ⟨e, he, _⟩
  cases he

/-- A `ProxyError` does not escape. -/
theorem not_escaped_proxy (e : ProxyError) : ¬Escaped (.error (.proxy e) : Except _ α) := by
  rintro ⟨f, hf, hne⟩
  cases hf
  exact hne e rfl

/-- Two steps escape if the first does, or the second on its value. -/
theorem escaped_bind {x : Except DerivationError α} {f : α → Except DerivationError β} :
    Escaped (x.bind f) ↔ Escaped x ∨ ∃ a, x = .ok a ∧ Escaped (f a) := by
  -- What the first step does decides whether the second is reached.
  cases x with
  | ok a =>
    refine ⟨fun h => .inr ⟨a, rfl, h⟩, ?_⟩
    rintro (h | ⟨b, hb, h⟩)
    · exact absurd h (not_escaped_ok a)
    · cases hb
      exact h
  | error e =>
    refine ⟨?_, ?_⟩
    · rintro ⟨f, hf, hne⟩
      cases hf
      exact .inl ⟨e, rfl, hne⟩
    · rintro (⟨f, hf, hne⟩ | ⟨a, ha, _⟩)
      · cases hf
        exact ⟨e, rfl, hne⟩
      · cases ha

/-- Reading a text fails by an error of proxies only. -/
theorem not_escaped_readText (p : Properties) (key : PropertyKey) :
    ¬Escaped (readText p key) := by
  rw [readText]
  split
  · exact not_escaped_ok _
  · exact not_escaped_proxy _

/-- Reading an integer fails by an error of proxies only. -/
theorem not_escaped_readInteger (p : Properties) (key : PropertyKey) :
    ¬Escaped (readInteger p key) := by
  rw [readInteger]
  split
  · exact not_escaped_ok _
  · exact not_escaped_proxy _

/-- Checking the type of the proxy does not escape. -/
theorem not_escaped_checkType (type : Option String) : ¬Escaped (checkType type) := by
  cases type with
  | none => exact not_escaped_ok _
  | some t =>
    rw [checkType]
    split
    · exact not_escaped_ok _
    · split <;> exact not_escaped_proxy _

/-- Checking a port escapes if the port is too long to be shown. -/
theorem escaped_checkPort {port : Int} :
    Escaped (checkPort port) ↔ Number.digitBound ≤ port.natAbs := by
  -- a port in range is never too long
  have hsmall := Number.portBound_le_digitBound
  simp only [checkPort]
  split
  · rename_i hrange
    refine ⟨fun h => absurd h (not_escaped_ok _), fun h => ?_⟩
    have hlarge := Nat.le_trans hsmall h
    clear hsmall h
    omega
  · split
    · rename_i hshort
      refine ⟨fun h => absurd h (not_escaped_proxy _), fun h => ?_⟩
      exact absurd hshort (Nat.not_lt.2 h)
    · rename_i hlong
      exact ⟨fun _ => Nat.not_lt.1 hlong, fun _ => ⟨_, rfl, by simp⟩⟩

/-- A URL of proxies whose name cannot be read. -/
def HasUnreadableName (u : Url) : Prop :=
  (u.scheme = "http" ∨ u.scheme = "https") ∧ ∃ e, u.hostCodes = .error e

/-- Reading an address escapes if the name of its host cannot be read. -/
theorem escaped_readAddress {raw : String} :
    Escaped (readAddress raw) ↔ ∃ u, Url.parse raw = .ok u ∧ HasUnreadableName u := by
  rw [readAddress]
  cases Url.parse raw with
  | error e =>
    refine ⟨fun h => absurd h (not_escaped_proxy _), ?_⟩
    rintro ⟨u, hu, _⟩
    cases hu
  | ok u =>
    simp only [Except.ok.injEq, exists_eq_left', HasUnreadableName]
    -- A URL of another scheme is refused before its name is read.
    split
    · rename_i hscheme
      refine ⟨fun h => absurd h (not_escaped_proxy _), fun h => ?_⟩
      exact absurd h.1 (fun ho => ho.elim hscheme.1 hscheme.2)
    · rename_i hscheme
      have hs : u.scheme = "http" ∨ u.scheme = "https" := by
        rwa [Classical.not_and_iff_not_or_not, Classical.not_not, Classical.not_not] at hscheme
      cases u.hostCodes with
      | error e => exact ⟨fun _ => ⟨hs, e, rfl⟩, fun _ => ⟨_, rfl, by simp⟩⟩
      | ok codes =>
        refine ⟨fun h => ?_, ?_⟩
        · simp only at h
          split at h
          · exact absurd h (not_escaped_proxy _)
          · exact absurd h (not_escaped_ok _)
        · rintro ⟨_, e, he⟩
          cases he

/-- A URL that cannot be written without its user information. -/
def KeepsUserinfo (u : Url) : Prop :=
  u.userinfo ≠ "" ∧ (u.oversized.isSome = true ∨ u.hasFalseIpv4 = true)

/-- Taking the user information away escapes if there is some and a component is too long, or the
host falsely looks like an IPv4 address. -/
theorem escaped_stripped {u : Url} (hu : ProxyAddress u) :
    Escaped (stripped u) ↔ KeepsUserinfo u := by
  rw [stripped_eq hu, KeepsUserinfo]
  split
  · rename_i hempty
    exact ⟨fun h => absurd h (not_escaped_ok _), fun h => absurd hempty h.1⟩
  · rename_i hne
    -- A component that is too long, and then the look of an IPv4 address, stop the second parse.
    cases u.oversized with
    | some k => exact ⟨fun _ => ⟨hne, .inl rfl⟩, fun _ => ⟨_, rfl, by simp⟩⟩
    | none =>
      cases u.hasFalseIpv4 with
      | true => exact ⟨fun _ => ⟨hne, .inr rfl⟩, fun _ => ⟨_, rfl, by simp⟩⟩
      | false =>
        refine ⟨fun h => absurd h (not_escaped_ok _), ?_⟩
        rintro ⟨_, h | h⟩ <;> cases h

/-- Deriving the credentials does not escape. -/
theorem not_escaped_credentialsFor (p : Properties) (u : Url) :
    ¬Escaped (credentialsFor p u) := by
  intro h
  -- Each read of a property gives a value or a plain error, and nothing else is done.
  rcases escaped_bind.1 h with h | ⟨user, _, h⟩
  · exact not_escaped_readText p _ h
  · simp only at h
    split at h
    · rcases escaped_bind.1 h with h | ⟨password, _, h⟩
      · exact not_escaped_readText p _ h
      · exact not_escaped_ok _ h
    · split at h <;> exact not_escaped_ok _ h

/-! ### Derivations that escape -/

/-- The port is asked for: there is no address as a whole, and a host. -/
def AsksForPort (p : Properties) : Prop :=
  ∃ uri host, readText p .proxyUri = .ok uri ∧ readText p .proxyHost = .ok host ∧
    uri.getD "" = "" ∧ host.getD "" ≠ ""

/-- The properties from which a derivation ends in none of the three ways. -/
inductive Escapes (p : Properties) : Prop where
  -- The port is out of range and too long to be shown.
  | port (type : TypeAccepted p) (asked : AsksForPort p) {port : Option Int}
    (read : readInteger p .proxyPort = .ok port)
    (long : Number.digitBound ≤ (port.getD defaultPort).natAbs)
  -- The name of the host cannot be read.
  | name (type : TypeAccepted p) {raw : String} (text : AddressText p raw) {u : Url}
    (parsed : Url.parse raw = .ok u) (unreadable : HasUnreadableName u)
  -- The address is accepted and cannot be written without its user information.
  | userinfo (type : TypeAccepted p) {raw : String} (text : AddressText p raw) {u : Url}
    (accepted : readAddress raw = .ok u)
    {credentials : Option BasicCredentials} (derived : credentialsFor p u = .ok credentials)
    (keeps : KeepsUserinfo u)

/-- Finding the address escapes if the port is too long to be shown, or the name of the host cannot
be read. -/
theorem escaped_address {p : Properties} :
    Escaped (address p) ↔
      (AsksForPort p ∧ ∃ port, readInteger p .proxyPort = .ok port ∧
        Number.digitBound ≤ (port.getD defaultPort).natAbs) ∨
      ∃ raw, AddressText p raw ∧ Escaped (readAddress raw) := by
  constructor
  · intro h
    -- Step by step: the texts, the port, its range, the address.
    rcases escaped_bind.1 h with h | ⟨uri, huri, h⟩
    · exact absurd h (not_escaped_readText p _)
    rcases escaped_bind.1 h with h | ⟨host, hhost, h⟩
    · exact absurd h (not_escaped_readText p _)
    split at h
    · rename_i hgiven
      rcases escaped_bind.1 h with h | ⟨u, _, h⟩
      · exact .inr ⟨_, .uri huri hhost hgiven, h⟩
      · exact absurd h (not_escaped_ok _)
    · rename_i habsent
      have habsent := Classical.not_not.1 habsent
      split at h
      · rename_i hgiven
        rcases escaped_bind.1 h with h | ⟨port, hport, h⟩
        · exact absurd h (not_escaped_readInteger p _)
        rcases escaped_bind.1 h with h | ⟨_, hrange, h⟩
        · exact .inl ⟨⟨uri, host, huri, hhost, habsent, hgiven⟩, port, hport,
            escaped_checkPort.1 h⟩
        rcases escaped_bind.1 h with h | ⟨u, _, h⟩
        · exact .inr ⟨_, .host huri hhost habsent hgiven hport (checkPort_eq_ok.1 hrange), h⟩
        · exact absurd h (not_escaped_ok _)
      · exact absurd h (not_escaped_ok _)
  · rintro (⟨⟨uri, host, huri, hhost, habsent, hgiven⟩, port, hport, hlong⟩ | ⟨raw, htext, h⟩)
    · refine escaped_bind.2 (.inr ⟨uri, huri, escaped_bind.2 (.inr ⟨host, hhost, ?_⟩)⟩)
      rw [if_neg (fun hne => hne habsent), if_pos hgiven]
      exact escaped_bind.2 (.inr ⟨port, hport, escaped_bind.2 (.inl (escaped_checkPort.2 hlong))⟩)
    -- By the text that the address is read from.
    · cases htext with
      | uri huri hhost hgiven =>
        refine escaped_bind.2 (.inr ⟨_, huri, escaped_bind.2 (.inr ⟨_, hhost, ?_⟩)⟩)
        rw [if_pos hgiven]
        exact escaped_bind.2 (.inl h)
      | host huri hhost habsent hgiven hport hrange =>
        refine escaped_bind.2 (.inr ⟨_, huri, escaped_bind.2 (.inr ⟨_, hhost, ?_⟩)⟩)
        rw [if_neg (fun hne => hne habsent), if_pos hgiven]
        exact escaped_bind.2 (.inr ⟨_, hport, escaped_bind.2 (.inr ⟨(), checkPort_eq_ok.2 hrange,
          escaped_bind.2 (.inl h)⟩)⟩)

/-- A derivation escapes from the properties that are listed, and from no others. -/
theorem escaped_derive {p : Properties} : Escaped (derive p) ↔ Escapes p := by
  constructor
  · intro h
    -- Step by step: the type, the address, the credentials, the text without them.
    rcases escaped_bind.1 h with h | ⟨type, htype, h⟩
    · exact absurd h (not_escaped_readText p _)
    rcases escaped_bind.1 h with h | ⟨_, hcheck, h⟩
    · exact absurd h (not_escaped_checkType _)
    have htype : TypeAccepted p := ⟨type, htype, hcheck⟩
    rcases escaped_bind.1 h with h | ⟨found, haddress, h⟩
    · rcases escaped_address.1 h with ⟨hasked, port, hport, hlong⟩ | ⟨raw, htext, h⟩
      · exact .port htype hasked hport hlong
      · obtain ⟨u, hu, hname⟩ := escaped_readAddress.1 h
        exact .name htype htext hu hname
    cases found with
    | none => exact absurd h (not_escaped_ok _)
    | some u =>
      obtain ⟨raw, htext, hu⟩ := address_eq_some.1 haddress
      rcases escaped_bind.1 h with h | ⟨credentials, hcredentials, h⟩
      · exact absurd h (not_escaped_credentialsFor p u)
      rcases escaped_bind.1 h with h | ⟨v, _, h⟩
      · exact .userinfo htype htext hu hcredentials
          ((escaped_stripped (proxyAddress_of_readAddress hu)).1 h)
      · exact absurd h (not_escaped_ok _)
  · intro h
    -- What escapes from the address escapes from the derivation if the type is accepted.
    have hfrom : TypeAccepted p → Escaped (address p) → Escaped (derive p) := by
      rintro ⟨type, htype, hcheck⟩ h
      exact escaped_bind.2 (.inr ⟨type, htype, escaped_bind.2 (.inr ⟨(), hcheck,
        escaped_bind.2 (.inl h)⟩)⟩)
    cases h with
    | port htype hasked hport hlong =>
      exact hfrom htype (escaped_address.2 (.inl ⟨hasked, _, hport, hlong⟩))
    | name htype htext hparsed hname =>
      exact hfrom htype (escaped_address.2 (.inr ⟨_, htext,
        escaped_readAddress.2 ⟨_, hparsed, hname⟩⟩))
    | userinfo htype htext haccepted hderived hkeeps =>
      obtain ⟨type, htype, hcheck⟩ := htype
      have haddress := address_eq_some.2 ⟨_, htext, haccepted⟩
      have hstripped := (escaped_stripped (proxyAddress_of_readAddress haccepted)).2 hkeeps
      exact escaped_bind.2 (.inr ⟨type, htype, escaped_bind.2 (.inr ⟨(), hcheck,
        escaped_bind.2 (.inr ⟨_, haddress, escaped_bind.2 (.inr ⟨_, hderived,
          escaped_bind.2 (.inl hstripped)⟩)⟩)⟩)⟩)

/-- A derivation ends as promised from all properties but those from which it escapes. -/
theorem asPromised_iff (p : Properties) : AsPromised (deriveLogged p) ↔ ¬Escapes p := by
  rw [asPromised_iff_not_escaped, escaped_derive]

/-- An internationalized name without any letters in it cannot be read, and the derivation does not
end as promised. -/
theorem not_asPromised_empty_label :
    ¬AsPromised (deriveLogged (.ofEntries [(.text "ProxyUri", .text "http://xn--")])) := by
  have h : derive (.ofEntries [(.text "ProxyUri", .text "http://xn--")]) =
      .error (.hostName .emptyEncoded) := by decide +kernel
  rw [asPromised_iff_not_escaped, h]
  exact fun hno => hno ⟨_, rfl, by simp⟩

end Egress.ProxyConfiguration
