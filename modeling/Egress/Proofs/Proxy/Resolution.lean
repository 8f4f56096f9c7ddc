import Egress.Proofs.Proxy.Observer

/-!
# The order of resolution

A derivation reads six properties, in an order that decides which of them count. Beside an address
as a whole neither the port nor another text for the host does, without an address nothing else
does, and beside a user name in the address the password of the properties does not. What is read
has to be readable all the same: the host is read before the address as a whole is looked at, and
the type of the proxy before anything else.

## Key results

- `SameUnder`, `proxyKeys`: stores that agree on some keys, and the keys that a derivation reads
- `address_of_nothing`: without an address as a whole and without a host there is no address
- `CredentialsFrom`: the two sources of credentials, which are never mixed
- `resolution_order`: which properties have no influence, and when
- `resolution_needs_type_and_host`: a type that is rejected, or a host that cannot be read, does
-/

namespace Egress.ProxyConfiguration

variable {p q : Properties} {keys : List PropertyKey} {key : PropertyKey}

/-! ### Stores that agree on some keys -/

/-- Two stores with the same values under some keys. -/
def SameUnder (keys : List PropertyKey) (p q : Properties) : Prop :=
  ∀ key ∈ keys, p.get? (.text key.name) = q.get? (.text key.name)

/-- The keys that a derivation reads. -/
def proxyKeys : List PropertyKey :=
  [.proxyType, .proxyUri, .proxyHost, .proxyPort, .proxyUser, .proxyPassword]

/-- A text under one of the keys is the same. -/
theorem SameUnder.readText (h : SameUnder keys p q) (hkey : key ∈ keys) :
    readText p key = ProxyConfiguration.readText q key := by
  simp only [ProxyConfiguration.readText, Properties.readText?, h key hkey]

/-- An integer under one of the keys is the same. -/
theorem SameUnder.readInteger (h : SameUnder keys p q) (hkey : key ∈ keys) :
    readInteger p key = ProxyConfiguration.readInteger q key := by
  simp only [ProxyConfiguration.readInteger, Properties.readInteger?, h key hkey]

/-! ### The address -/

/-- Without an address as a whole and without a host there is no address. -/
theorem address_of_nothing {uri host : Option String} (huri : readText p .proxyUri = .ok uri)
    (hhost : readText p .proxyHost = .ok host) (nouri : uri.getD "" = "")
    (nohost : host.getD "" = "") : address p = .ok none := by
  simp only [address, huri, hhost, bind, Except.bind, pure, Except.pure]
  rw [if_neg fun h => h nouri, if_neg fun h => h nohost]

/-! ### The credentials -/

/-- Where credentials come from. -/
inductive CredentialsFrom (p : Properties) : Option BasicCredentials → Prop where
  -- Both parts come from the properties; a password that is absent is empty.
  | properties {user : String} {password : Option String}
    (huser : readText p .proxyUser = .ok (some user)) (given : user ≠ "")
    (hpassword : readText p .proxyPassword = .ok password) :
    CredentialsFrom p (some ⟨user, password.getD ""⟩)
  -- Both parts come from the text of the address.
  | address {user : Option String} {raw : String} {u : Url}
    (huser : readText p .proxyUser = .ok user) (absent : user.getD "" = "")
    (htext : AddressText p raw) (hparse : Url.parse raw = .ok u) (given : u.username ≠ "") :
    CredentialsFrom p (some ⟨u.username, u.password⟩)
  -- Neither the properties nor the address have a user name.
  | none {user : Option String} {raw : String} {u : Url}
    (huser : readText p .proxyUser = .ok user) (absent : user.getD "" = "")
    (htext : AddressText p raw) (hparse : Url.parse raw = .ok u) (noname : u.username = "") :
    CredentialsFrom p none

/-- Credentials depend on the two properties for them. -/
theorem finish_congr (huser : readText p .proxyUser = readText q .proxyUser)
    (hpassword : readText p .proxyPassword = readText q .proxyPassword) : finish p = finish q := by
  funext u
  simp only [finish, credentialsFor, huser, hpassword]

/-- Without a user name among the properties the address decides alone. -/
theorem credentialsFor_of_no_user {user : Option String} (huser : readText p .proxyUser = .ok user)
    (absent : user.getD "" = "") (u : Url) :
    credentialsFor p u = .ok (if u.username ≠ "" then some ⟨u.username, u.password⟩ else none) := by
  simp only [credentialsFor, huser, bind, Except.bind, pure, Except.pure]
  rw [if_neg fun h => h absent]
  split <;> rfl

/-- With a user name among the properties the password is read from there. -/
theorem credentialsFor_of_user {user : Option String} (huser : readText p .proxyUser = .ok user)
    (given : user.getD "" ≠ "") (u : Url) :
    credentialsFor p u =
      (readText p .proxyPassword).map fun password =>
        some ⟨user.getD "", password.getD ""⟩ := by
  simp only [credentialsFor, huser, bind, Except.bind, pure, Except.pure]
  rw [if_pos given]
  cases readText p .proxyPassword <;> rfl

/-- The credentials of a derived configuration come from one source. -/
theorem credentialsFrom_of_derive {c : ProxyConfiguration} (h : derive p = .ok (some c)) :
    CredentialsFrom p c.credentials := by
  obtain ⟨_, u, haddress, hcredentials, _⟩ := derive_eq_some.1 h
  obtain ⟨raw, htext, hread⟩ := address_eq_some.1 haddress
  have hparse := (readAddress_eq_ok.1 hread).1
  obtain ⟨user, huser, _⟩ := bind_eq_ok.1 hcredentials
  -- Without a user among the properties the address decides, and with one the properties do.
  by_cases hgiven : user.getD "" = ""
  · rw [credentialsFor_of_no_user huser hgiven] at hcredentials
    rw [← Except.ok.inj hcredentials]
    split
    · rename_i hname
      exact .address huser hgiven htext hparse hname
    · rename_i hname
      exact .none huser hgiven htext hparse (Classical.not_not.1 hname)
  · rw [credentialsFor_of_user huser hgiven] at hcredentials
    obtain ⟨password, hpassword, hc⟩ := map_eq_ok.1 hcredentials
    rw [← hc]
    cases user with
    | none => exact absurd rfl hgiven
    | some user => exact .properties huser hgiven hpassword

/-! ### The derivation -/

/-- Derivations are the same where types, addresses and what is made of addresses are. -/
theorem deriveLogged_congr (htype : readText p .proxyType = readText q .proxyType)
    (haddress : address p = address q) (hfinish : finish p = finish q) :
    deriveLogged p = deriveLogged q := by
  rw [deriveLogged, deriveLogged, derive_eq, derive_eq, htype, haddress, hfinish]

/-- Only the values under six keys count. -/
theorem deriveLogged_of_sameUnder (h : SameUnder proxyKeys p q) :
    deriveLogged p = deriveLogged q := by
  refine deriveLogged_congr (h.readText (by decide)) (address_congr ?_ ?_ ?_) (finish_congr ?_ ?_)
  · exact h.readText (by decide)
  · exact h.readText (by decide)
  · exact h.readInteger (by decide)
  · exact h.readText (by decide)
  · exact h.readText (by decide)

/-- Beside an address as a whole, port and host do not count as long as the host can be read. -/
theorem deriveLogged_of_uri {uri : String} {host host' : Option String}
    (h : SameUnder [.proxyType, .proxyUri, .proxyUser, .proxyPassword] p q)
    (huri : readText p .proxyUri = .ok (some uri)) (given : uri ≠ "")
    (left : readText p .proxyHost = .ok host) (right : readText q .proxyHost = .ok host') :
    deriveLogged p = deriveLogged q := by
  have huri' : readText q .proxyUri = .ok (some uri) := (h.readText (by decide)).symm.trans huri
  -- Beside an address as a whole, the host is read and then forgotten.
  have haddress : address p = address q := by
    rw [address_of_uri huri given, address_of_uri huri' given, left, right]
    rfl
  exact deriveLogged_congr (h.readText (by decide)) haddress
    (finish_congr (h.readText (by decide)) (h.readText (by decide)))

/-- Beside an address as a whole the port does not count, whether or not the host can be read. -/
theorem deriveLogged_of_uri_port {uri : String}
    (h : SameUnder [.proxyType, .proxyUri, .proxyHost, .proxyUser, .proxyPassword] p q)
    (huri : readText p .proxyUri = .ok (some uri)) (given : uri ≠ "") :
    deriveLogged p = deriveLogged q := by
  have huri' : readText q .proxyUri = .ok (some uri) := (h.readText (by decide)).symm.trans huri
  -- the host is read before the address as a whole counts, and it reads alike on both sides
  have hhost : readText p .proxyHost = readText q .proxyHost := h.readText (by decide)
  have haddress : address p = address q := by
    rw [address_of_uri huri given, address_of_uri huri' given, hhost]
  exact deriveLogged_congr (h.readText (by decide)) haddress
    (finish_congr (h.readText (by decide)) (h.readText (by decide)))

/-- Without an address nothing but the type counts. -/
theorem deriveLogged_of_nothing {uri host : Option String} (htype : TypeAccepted p)
    (huri : readText p .proxyUri = .ok uri) (hhost : readText p .proxyHost = .ok host)
    (nouri : uri.getD "" = "") (nohost : host.getD "" = "") :
    deriveLogged p = ⟨[], .ok none⟩ := by
  obtain ⟨type, hread, hcheck⟩ := htype
  have hderive : derive p = .ok none := by
    rw [derive_eq, hread, address_of_nothing huri hhost nouri nohost]
    simp only [Except.bind, hcheck, Option.elim_none]
  rw [deriveLogged, hderive]
  rfl

/-- Without a user name among the properties the password there does not count. -/
theorem deriveLogged_of_no_user {user : Option String} (h : SameBesides .proxyPassword p q)
    (huser : readText p .proxyUser = .ok user) (absent : user.getD "" = "") :
    deriveLogged p = deriveLogged q := by
  have huser' : readText q .proxyUser = .ok user := (h.readText (by decide)).symm.trans huser
  have haddress : address p = address q :=
    address_congr (h.readText (by decide)) (h.readText (by decide)) (h.readInteger (by decide))
  -- Only a user name among the properties brings the password in.
  have hfinish : finish p = finish q := by
    funext u
    rw [finish, finish, credentialsFor_of_no_user huser absent,
      credentialsFor_of_no_user huser' absent]
  exact deriveLogged_congr (h.readText (by decide)) haddress hfinish

/-- The order of resolution. Only the values under six keys count. Beside an address as a whole,
the port does not count, and of the host only that it can be read. Without an address, and with a
type that is accepted, there is no proxy, whatever else is set. The credentials of a configuration
come from one source: the properties, if they have a user name, or else the address, and then the
password of the properties does not count. -/
theorem resolution_order (p q : Properties) :
    (SameUnder proxyKeys p q → deriveLogged p = deriveLogged q) ∧
    (∀ uri, SameUnder [.proxyType, .proxyUri, .proxyHost, .proxyUser, .proxyPassword] p q →
      readText p .proxyUri = .ok (some uri) → uri ≠ "" → deriveLogged p = deriveLogged q) ∧
    (∀ uri host host', SameUnder [.proxyType, .proxyUri, .proxyUser, .proxyPassword] p q →
      readText p .proxyUri = .ok (some uri) → uri ≠ "" → readText p .proxyHost = .ok host →
      readText q .proxyHost = .ok host' → deriveLogged p = deriveLogged q) ∧
    (∀ uri host, TypeAccepted p → readText p .proxyUri = .ok uri →
      readText p .proxyHost = .ok host → uri.getD "" = "" → host.getD "" = "" →
      deriveLogged p = ⟨[], .ok none⟩) ∧
    (∀ c, derive p = .ok (some c) → CredentialsFrom p c.credentials) ∧
    ∀ user, SameBesides .proxyPassword p q → readText p .proxyUser = .ok user →
      user.getD "" = "" → deriveLogged p = deriveLogged q :=
  ⟨deriveLogged_of_sameUnder,
    fun _ h huri given => deriveLogged_of_uri_port h huri given,
    fun _ _ _ h huri given left right => deriveLogged_of_uri h huri given left right,
    fun _ _ htype huri hhost nouri nohost => deriveLogged_of_nothing htype huri hhost nouri nohost,
    fun _ h => credentialsFrom_of_derive h,
    fun _ h huser absent => deriveLogged_of_no_user h huser absent⟩

/-- Beside an address as a whole, a port that is no number changes nothing, and neither does another
host; nor does that port beside a host that cannot be read. -/
theorem resolution_order_beside_uri :
    let p := Properties.ofEntries [(.text "ProxyUri", .text "http://u:p@h"),
      (.text "ProxyPort", .text "none"), (.text "ProxyHost", .text "other")]
    let q := Properties.ofEntries [(.text "ProxyUri", .text "http://u:p@h")]
    let r := Properties.ofEntries [(.text "ProxyUri", .text "http://u:p@h"),
      (.text "ProxyPort", .text "none"), (.text "ProxyHost", .int 5)]
    let t := Properties.ofEntries [(.text "ProxyUri", .text "http://u:p@h"),
      (.text "ProxyHost", .int 5)]
    deriveLogged p = deriveLogged q ∧ deriveLogged r = deriveLogged t ∧
      (derive q).toOption = some (some ⟨⟨"http", "", "h", none, "", none, none⟩, some ⟨"u", "p"⟩⟩) ∧
      CredentialsFrom q (some ⟨"u", "p"⟩) := by
  intro p q r t
  have hq : derive q = .ok (some ⟨⟨"http", "", "h", none, "", none, none⟩, some ⟨"u", "p"⟩⟩) := by
    decide +kernel
  -- That the stores agree is checked key by key.
  have hsame : SameUnder [.proxyType, .proxyUri, .proxyUser, .proxyPassword] p q := by
    simp only [SameUnder, List.forall_mem_cons]
    exact ⟨rfl, rfl, rfl, rfl, List.forall_mem_nil _⟩
  have hsame' : SameUnder [.proxyType, .proxyUri, .proxyHost, .proxyUser, .proxyPassword] r t := by
    simp only [SameUnder, List.forall_mem_cons]
    exact ⟨rfl, rfl, rfl, rfl, rfl, List.forall_mem_nil _⟩
  refine ⟨?_, ?_, by rw [hq]; rfl, (resolution_order q q).2.2.2.2.1 _ hq⟩
  · exact (resolution_order p q).2.2.1 "http://u:p@h" (some "other") none hsame (by decide +kernel)
      (by decide) (by decide +kernel) (by decide +kernel)
  · exact (resolution_order r t).2.1 "http://u:p@h" hsame' (by decide +kernel) (by decide)

/-- A type that is rejected is an error even if there is no address. A host that cannot be read is
an error even beside an address as a whole, which is accepted once the host is removed. -/
theorem resolution_needs_type_and_host :
    let r := Properties.ofEntries [(.text "ProxyType", .text "OnPremise")]
    let p := Properties.ofEntries
      [(.text "ProxyUri", .text "http://h"), (.text "ProxyHost", .int 5)]
    let q := Properties.ofEntries [(.text "ProxyUri", .text "http://h")]
    (readText r .proxyUri = .ok none ∧ readText r .proxyHost = .ok none ∧
      derive r = .error (.proxy .onPremise)) ∧
    SameBesides .proxyHost p q ∧ readText p .proxyType = .ok none ∧
      readText q .proxyHost = .ok none ∧
      derive q = .ok (some ⟨⟨"http", "", "h", none, "", none, none⟩, none⟩) ∧
      derive p ≠ derive q := by
  intro r p q
  refine ⟨⟨by decide +kernel, by decide +kernel, by decide +kernel⟩, fun name hname => ?_,
    by decide +kernel, by decide +kernel, by decide +kernel, by decide +kernel⟩
  -- The only difference is under the host, so every other name finds the same.
  have hother : Value.sameKey (.text PropertyKey.proxyHost.name) (.text name) = false :=
    sameKey_text_of_ne hname.symm
  have hone : [((.text PropertyKey.proxyHost.name : Value), Value.int 5)].find?
      (fun e => Value.sameKey e.1 (.text name)) = none := by
    rw [List.find?_cons_of_neg (by simp [hother]), List.find?_nil]
  have hp : p.entries = q.entries ++ [(.text PropertyKey.proxyHost.name, .int 5)] := rfl
  rw [Properties.get?, Properties.get?, Value.entry?, Value.entry?, hp, List.find?_append, hone,
    Option.or_none]

end Egress.ProxyConfiguration
