import Egress.Proofs.Host.Form
import Egress.Proofs.Proxy.Transport
import Egress.Proofs.Url.HostPort

/-!
# Proxies given by host and port

A proxy that is given by `ProxyHost` and `ProxyPort` is put together as a URL and read again. The
host comes out as it was written, in its normal form, and the port beside it, unless a delimiter of
an authority is in the host: then something else than the host is reached, or user information is
taken from it.

## Key results

- `GivenCredentials`: the credentials that `ProxyUser` and `ProxyPassword` give
- `LeadsToHost`: what a configuration with a host and a port should be
- `leadsToHost_iff`: the hosts that lead to such a configuration
-/

namespace Egress.ProxyConfiguration

open Egress.Host Egress.Url

/-- The credentials that the properties for them give by themselves. -/
inductive GivenCredentials (p : Properties) : Option BasicCredentials → Prop where
  | absent {user : Option String} (huser : readText p .proxyUser = .ok user)
    (empty : user.getD "" = "") : GivenCredentials p none
  | present {user password : Option String} (huser : readText p .proxyUser = .ok user)
    (given : user.getD "" ≠ "") (hpassword : readText p .proxyPassword = .ok password) :
    GivenCredentials p (some ⟨user.getD "", password.getD ""⟩)

/-- The user name of given credentials is that of `ProxyUser`. -/
theorem GivenCredentials.user {p : Properties} {k : BasicCredentials}
    (h : GivenCredentials p (some k)) : readText p .proxyUser = .ok (some k.username) := by
  cases h with
  | @present user _ huser given _ =>
    cases user with
    | none => exact absurd rfl given
    | some name => exact huser

/-- A configuration of the proxy at a port of a host, with the credentials that are given beside
them. -/
structure LeadsToHost (p : Properties) (host : String) (port : Int) (c : ProxyConfiguration) :
    Prop where
  root : c.uri.AtRoot
  scheme : c.uri.scheme = "http"
  -- The host is reached under its normal form.
  host : IsFormOf host.toList c.uri.host.toList
  port : c.uri.effectivePort = some port
  credentials : GivenCredentials p c.credentials

variable {p : Properties} {u : Url}

/-- Without user information in an address, its credentials are the given ones. -/
theorem givenCredentials_of_userinfo_empty {credentials : Option BasicCredentials}
    (hu : u.userinfo = "") (h : credentialsFor p u = .ok credentials) :
    GivenCredentials p credentials := by
  obtain ⟨user, huser, h⟩ := bind_eq_ok.1 h
  simp only at h
  -- A user among the properties comes with its password; without one the address has none to offer.
  split at h
  · rename_i hgiven
    obtain ⟨password, hpassword, h⟩ := bind_eq_ok.1 h
    cases h
    exact .present huser hgiven hpassword
  · rename_i hempty
    rw [if_neg (not_not_intro (credentials_of_userinfo_empty hu).1)] at h
    cases h
    exact .absent huser (Classical.not_not.1 hempty)

/-- A host without delimiters is reached at its port. -/
private theorem leadsToHost_of_no_delimiter {host : String} {port : Int} {c : ProxyConfiguration}
    (hread : readAddress (String.ofList (hostPortText host.toList port)) = .ok u)
    (hrange : 0 < port ∧ port < 65536) (hcredentials : credentialsFor p u = .ok c.credentials)
    (hstripped : stripped u = .ok c.uri) (hno : ∀ ch ∈ host.toList, ch ∉ hostDelimiters) :
    LeadsToHost p host port c := by
  obtain ⟨hparse, _, _⟩ := readAddress_eq_ok.1 hread
  obtain ⟨hends, hat⟩ := no_delimiter_iff.1 hno
  have hparts := fromParts_of_hostPort hparse hends hat
  have huser : u.userinfo = "" := String.toList_inj.1 hparts.userinfo
  have hscheme : u.scheme = "http" := String.toList_inj.1 hparts.scheme
  have hsmall : port.natAbs < Number.digitBound := by
    have hbound := Number.portBound_le_digitBound
    omega
  -- there is nothing to take out of the address
  obtain ⟨_, hsame⟩ := (eq_of_stripped (proxyAddress_of_readAddress hread) hstripped).resolve_right
    fun h => h.1 huser
  constructor
  · rw [hsame]
    exact (atRoot_iff hparse).2 hends
  · rw [hsame, hscheme]
  · rw [hsame]
    exact isFormOf_normalHost hparts.host
  · rw [hsame]
    exact effectivePort_of_fromParts hparts rfl rfl hsmall
  · exact givenCredentials_of_userinfo_empty huser hcredentials

/-- What stands behind an at sign is no form of the whole, and reading an address again without its
user information does not change that. -/
private theorem not_isFormOf_of_at {user host : List Char} {v : Url} (hu : ProxyAddress u)
    (hform : IsFormOf host u.host.toList) (hstripped : stripped u = .ok v) :
    ¬IsFormOf (user ++ '@' :: host) v.host.toList := by
  have hat : ∀ {h}, NormalHost h → '@' ∉ h := fun hn hc => (hn.plain hc).2.2 rfl
  rcases eq_of_stripped hu hstripped with ⟨_, rfl⟩ | ⟨_, rfl⟩
  · exact hform.no_at rfl (hat hu.normal.host)
  · have hlowered : u.withoutUser.host.toList = lowered u.host.toList := String.toList_ofList
    rw [hlowered]
    exact hform.no_at (length_lowered _) (hat hu.normal.host.lowered)

/-- A configuration that is derived from a host and a port is that of the host at the port, with the
credentials that are given beside them, exactly when none of the delimiters of an authority is in
the host. -/
theorem leadsToHost_iff (p : Properties) (uri : Option String) (host : String) (port : Option Int)
    (c : ProxyConfiguration) (huri : readText p .proxyUri = .ok uri) (absent : uri.getD "" = "")
    (hhost : readText p .proxyHost = .ok (some host)) (hport : readInteger p .proxyPort = .ok port)
    (hderive : derive p = .ok (some c)) :
    LeadsToHost p host (port.getD defaultPort) c ↔ ∀ ch ∈ host.toList, ch ∉ hostDelimiters := by
  obtain ⟨_, u, haddress, hcredentials, hstripped⟩ := derive_eq_some.1 hderive
  obtain ⟨raw, htext, hread⟩ := address_eq_some.1 haddress
  -- The text that the address was read from is put together from host and port.
  obtain ⟨rfl, hrange⟩ := htext.eq_host huri absent hhost hport
  rw [Option.getD_some, hostPortText_eq] at hread
  obtain ⟨hparse, _, _⟩ := readAddress_eq_ok.1 hread
  have hu := proxyAddress_of_readAddress hread
  constructor
  · intro hleads
    have hroot : u.AtRoot := by
      have hroot := hleads.root
      -- The address itself, or the one without user information, which has the same path.
      rcases eq_of_stripped hu hstripped with ⟨_, hsame⟩ | ⟨_, hsame⟩
      · rwa [hsame] at hroot
      · rw [hsame] at hroot
        exact ⟨hroot.path, hroot.query, hroot.fragment⟩
    have hends := (atRoot_iff hparse).1 hroot
    -- An at sign would give another host, namely what is behind it.
    have hat : '@' ∉ host.toList := by
      intro hmem
      obtain ⟨before, after, hsplit, hno⟩ := exists_last_of_mem hmem
      have hform := hleads.host
      rw [hsplit] at hparse hends hform
      have hparts := fromParts_of_userHostPort hparse hends hno
      exact not_isFormOf_of_at hu (isFormOf_normalHost hparts.host) hstripped hform
    exact no_delimiter_iff.2 ⟨hends, hat⟩
  · exact leadsToHost_of_no_delimiter hread hrange hcredentials hstripped

/-- An address in brackets at a port, with credentials beside them. -/
theorem leadsToHost_brackets :
    ∃ p c, derive p = .ok (some c) ∧ c.uri.host = "::1" ∧ LeadsToHost p "[::1]" 3128 c := by
  have h : derive (.ofEntries [(.text "ProxyHost", .text "[::1]"), (.text "ProxyPort", .int 3128),
      (.text "ProxyUser", .text "u")]) =
      .ok (some ⟨⟨"http", "", "::1", some 3128, "", none, none⟩, some ⟨"u", ""⟩⟩) := by
    decide +kernel
  refine ⟨_, _, h, rfl, ?_⟩
  exact (leadsToHost_iff _ none "[::1]" (some 3128) _ (by decide +kernel) rfl (by decide +kernel)
    (by decide +kernel) h).2 (no_delimiter_of_all (by decide))

/-- User information before an at sign in a host becomes credentials. -/
theorem not_leadsToHost_userinfo :
    ∃ p c, readText p .proxyUri = .ok none ∧
      readText p .proxyHost = .ok (some "user:secret@proxy.local") ∧
      readInteger p .proxyPort = .ok (some 8080) ∧ readText p .proxyUser = .ok none ∧
      derive p = .ok (some c) ∧ c.uri.host = "proxy.local" ∧
      c.credentials = some ⟨"user", "secret"⟩ ∧
      ¬LeadsToHost p "user:secret@proxy.local" 8080 c := by
  -- What is derived is evaluated, and so is that no user was given.
  have h : derive (.ofEntries [(.text "ProxyHost", .text "user:secret@proxy.local"),
      (.text "ProxyPort", .int 8080)]) =
      .ok (some ⟨⟨"http", "", "proxy.local", some 8080, "", none, none⟩,
        some ⟨"user", "secret"⟩⟩) := by decide +kernel
  have huser : readText (.ofEntries [(.text "ProxyHost", .text "user:secret@proxy.local"),
      (.text "ProxyPort", .int 8080)]) .proxyUser = .ok none := by decide +kernel
  refine ⟨_, _, by decide +kernel, by decide +kernel, by decide +kernel, huser, h, rfl, rfl, ?_⟩
  intro hleads
  cases huser.symm.trans hleads.credentials.user

end Egress.ProxyConfiguration
