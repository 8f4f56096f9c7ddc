import Egress.Proofs.Proxy.Derivation

/-!
# Derived configurations as transports use them

A transport prefers the user information of an address over the credentials that come with it. A
derived address has none, so the derived credentials are the ones that are used.

## Key results

- `transport_of_derive`: what a derived configuration looks like, and what a transport makes of it
-/

namespace Egress.ProxyConfiguration

open Egress.Url

/-- Without user information there is neither a user name nor a password in an address. -/
theorem credentials_of_userinfo_empty {u : Url} (h : u.userinfo = "") :
    u.username = "" ∧ u.password = "" := by
  simp only [username, password, h]
  decide

/-- An address without user information is used as it is, with the credentials beside it. -/
theorem transport_of_userinfo_empty {c : ProxyConfiguration}
    (hscheme : c.uri.scheme = "http" ∨ c.uri.scheme = "https") (huser : c.uri.userinfo = "") :
    c.transport = .ok ⟨c.uri, c.credentials.map fun k => (k.username, k.password)⟩ := by
  obtain ⟨hname, hpassword⟩ := credentials_of_userinfo_empty huser
  have hknown : c.uri.scheme ∈ transportSchemes := by
    rcases hscheme with h | h <;> rw [h] <;> decide
  rw [transport, if_neg (fun hno => hno hknown), if_neg]
  rintro (hne | hne)
  · exact hne hname
  · exact hne hpassword

/-- A derived configuration has an http or https address without user information, with a host whose
name can be read and is not empty, and credentials with a user name; a transport uses the address as
it is, and these credentials. -/
theorem transport_of_derive {p : Properties} {c : ProxyConfiguration}
    (h : derive p = .ok (some c)) :
    (c.uri.scheme = "http" ∨ c.uri.scheme = "https") ∧
      c.uri.host ≠ "" ∧ (∃ name, c.uri.hostCodes = .ok name ∧ name ≠ []) ∧
      c.uri.userinfo = "" ∧
      (∀ k, c.credentials = some k → k.username ≠ "") ∧
      c.transport = .ok ⟨c.uri, c.credentials.map fun k => (k.username, k.password)⟩ := by
  -- The address was accepted, and taking the user information away keeps the rest.
  obtain ⟨_, u, haddress, hcredentials, hstripped⟩ := derive_eq_some.1 h
  obtain ⟨raw, _, hraw⟩ := address_eq_some.1 haddress
  have hu := proxyAddress_of_readAddress hraw
  obtain ⟨hsame, hname, huser⟩ := stripped_spec hu hstripped
  have hscheme : c.uri.scheme = "http" ∨ c.uri.scheme = "https" := hsame ▸ hu.scheme
  have hhost : c.uri.host ≠ "" := by
    obtain ⟨_, hcodes, hne⟩ := hname
    exact host_ne_of_hostCodes hcodes hne
  refine ⟨hscheme, hhost, hname, huser, ?_, transport_of_userinfo_empty hscheme huser⟩
  intro k hk
  rw [hk] at hcredentials
  exact username_ne_of_credentialsFor hcredentials

/-- User information in the address of a proxy becomes its credentials. -/
theorem transport_of_userinfo_example :
    ∃ p c, derive p = .ok (some c) ∧ c.transport = .ok ⟨c.uri, some ("u", "p")⟩ := by
  have h : derive (.ofEntries [(.text "ProxyUri", .text "http://u:p@h:8080")]) =
      .ok (some ⟨⟨"http", "", "h", some 8080, "", none, none⟩, some ⟨"u", "p"⟩⟩) := by
    decide +kernel
  exact ⟨_, _, h, (transport_of_derive h).2.2.2.2.2⟩

end Egress.ProxyConfiguration
