import Egress.Proofs.Proxy.Derivation
import Egress.Proofs.Url.Userinfo

/-!
# What an observer sees of a derivation

Two runs from properties that differ in the password only are compared by what an observer sees:
the records, the class and the wording of an error, the address of a configuration and the way it
is shown. What is derived from an accepted address does not show the password of the credentials.

## Key results

- `Indistinguishable`, `SameButPassword`: the observer, and the pairs of properties
- `Leaks`: the pairs that are told apart
- `derive_looksLike`: runs look alike where their addresses are the same
- `property_looksLike`: the password under `ProxyPassword` is never seen
-/

namespace Egress.ProxyConfiguration

open Egress.Text Egress.Url

/-! ### The observer -/

/-- The class of an error. -/
inductive ErrorClass where
  -- No configuration can be derived.
  | configuration
  -- A name cannot be read.
  | name
  -- A name holds a code point that no name may hold.
  | codePoint
  -- A name holds a code point in the wrong context.
  | context
  -- A name mixes directions.
  | direction
  | url
  -- A number has too many digits.
  | number
  deriving DecidableEq

/-- The class of an error about a name. -/
def ErrorClass.ofName : Host.NameError → ErrorClass
  | .codepoint .. => .codePoint
  | .joiner .. | .context .. => .context
  | .unknownDirection .. | .firstDirection _ | .innerDirection .. | .mixedNumbers |
    .lastDirection => .direction
  | _ => .name

/-- The class of an error of a derivation. -/
def ErrorClass.of : DerivationError → ErrorClass
  | .proxy _ => .configuration
  | .hostName e => .ofName e
  | .url _ => .url
  | .portDigits => .number

/-- What an observer sees of an outcome. -/
inductive Seen where
  -- There is no proxy.
  | absent
  | configuration (uri : Url) (shown : String)
  | error (kind : ErrorClass) (message : String)

/-- What an observer sees of an outcome. -/
def seen : Except DerivationError (Option ProxyConfiguration) → Seen
  | .ok none => .absent
  | .ok (some c) => .configuration c.uri c.literal
  | .error e => .error (.of e) e.message

/-- Two derivations that write the same records and whose outcomes look the same. -/
structure Indistinguishable (x y : Logged DerivationError (Option ProxyConfiguration)) : Prop where
  records : x.records = y.records
  -- The outcomes look the same.
  seen : seen x.result = seen y.result

/-- Two outcomes that look the same, with the records that are written about them. -/
def LooksLike (x y : Except DerivationError (Option ProxyConfiguration)) : Prop :=
  Indistinguishable ⟨recordsOf x, x⟩ ⟨recordsOf y, y⟩

theorem LooksLike.refl (x : Except DerivationError (Option ProxyConfiguration)) :
    LooksLike x x := ⟨rfl, rfl⟩

theorem LooksLike.symm {x y : Except DerivationError (Option ProxyConfiguration)}
    (h : LooksLike x y) : LooksLike y x := ⟨h.records.symm, h.seen.symm⟩

/-! ### The pairs of properties -/

/-- Two stores with the same values besides those under one key. -/
def SameBesides (key : PropertyKey) (p q : Properties) : Prop :=
  ∀ name, name ≠ key.name → p.get? (.text name) = q.get? (.text name)

/-- Two texts name the same entry of a map only if they are equal. -/
theorem sameKey_text_of_ne {a b : String} (h : a ≠ b) :
    Value.sameKey (.text a) (.text b) = false := by
  have heqv : Value.eqv (.text a) (.text b) = .ok false := by
    simp [Value.eqv, Value.eqText, Value.text?, Ne.symm h]
  simp [Value.sameKey, Value.eqvItem, Value.sameNan, heqv]

/-- Two stores have the same values besides those under one key if they differ there only. -/
theorem sameBesides_of_entries (key : PropertyKey) (before after : List (Value × Value))
    (v w : Value) :
    SameBesides key ⟨before ++ (.text key.name, v) :: after⟩
      ⟨before ++ (.text key.name, w) :: after⟩ := by
  intro name hname
  have hother : Value.sameKey (.text key.name) (.text name) = false :=
    sameKey_text_of_ne fun h => hname h.symm
  simp only [Properties.get?, Value.entry?, List.find?_append]
  rw [List.find?_cons_of_neg (by simp [hother]), List.find?_cons_of_neg (by simp [hother])]

/-- Two stores that differ in the password of the proxy only, both passwords being plain. -/
inductive SameButPassword (p q : Properties) : Prop where
  | property {x y : List Char} (left : IsPassword x) (right : IsPassword y)
    (same : SameBesides .proxyPassword p q)
    (leftRead : readText p .proxyPassword = .ok (some (String.ofList x)))
    (rightRead : readText q .proxyPassword = .ok (some (String.ofList y)))
  -- The passwords stand in the user information of the address.
  | address (t : PasswordText) {x y : List Char} (left : IsPassword x) (right : IsPassword y)
    (same : SameBesides .proxyUri p q)
    (leftRead : readText p .proxyUri = .ok (some (String.ofList (t.text x))))
    (rightRead : readText q .proxyUri = .ok (some (String.ofList (t.text y))))

/-- A text under another key is the same. -/
theorem SameBesides.readText {key : PropertyKey} {p q : Properties} (h : SameBesides key p q)
    {k : PropertyKey} (hk : k.name ≠ key.name) :
    readText p k = ProxyConfiguration.readText q k := by
  simp only [ProxyConfiguration.readText, Properties.readText?, h k.name hk]

/-- An integer under another key is the same. -/
theorem SameBesides.readInteger {key : PropertyKey} {p q : Properties} (h : SameBesides key p q)
    {k : PropertyKey} (hk : k.name ≠ key.name) :
    readInteger p k = ProxyConfiguration.readInteger q k := by
  simp only [ProxyConfiguration.readInteger, Properties.readInteger?, h k.name hk]

/-! ### Leaks -/

/-- An address that is rejected as the address of a proxy. -/
def Rejected (raw : String) : Prop := ∃ e, readAddress raw = .error (.proxy e)

/-- An address is rejected, or it is a URL whose name cannot be read, or it is accepted. -/
theorem readAddress_cases (raw : String) : Rejected raw ∨ ∃ u, Url.parse raw = .ok u ∧
    ((∃ e, u.hostCodes = .error e ∧ readAddress raw = .error (.hostName e)) ∨
      ∃ codes, u.hostCodes = .ok codes ∧ readAddress raw = .ok u) := by
  rw [Rejected, readAddress]
  -- Not a URL, a URL of another kind, a name that cannot be read, an empty one, or an accepted one.
  cases Url.parse raw with
  | error e => exact .inl ⟨_, rfl⟩
  | ok u =>
    simp only
    split
    · exact .inl ⟨_, rfl⟩
    · cases hcodes : u.hostCodes with
      | error e => exact .inr ⟨u, rfl, .inl ⟨e, hcodes, rfl⟩⟩
      | ok codes =>
        simp only
        split
        · exact .inl ⟨_, rfl⟩
        · exact .inr ⟨u, rfl, .inr ⟨codes, hcodes, rfl⟩⟩

/-- A URL whose authority is too long to be written again. -/
def HasLongAuthority (u : Url) : Prop := maxLength < u.authority.toList.length

/-- Two stores whose derivations tell different passwords apart. -/
inductive Leaks (p q : Properties) : Prop where
  -- Two different addresses, one of which is rejected and quoted.
  | quoted (type : TypeAccepted p) {raw raw' : String} (left : AddressText p raw)
    (right : AddressText q raw') (differ : raw ≠ raw') (rejected : Rejected raw ∨ Rejected raw')
  -- Two accepted addresses, one of which has an authority that is too long.
  | length (type : TypeAccepted p) {raw raw' : String} (left : AddressText p raw)
    (right : AddressText q raw') {u v : Url} (leftRead : readAddress raw = .ok u)
    (rightRead : readAddress raw' = .ok v) {k : Option BasicCredentials}
    (credentials : credentialsFor p u = .ok k)
    (differ : ¬(HasLongAuthority u ↔ HasLongAuthority v))

/-! ### Credentials -/

/-- Two readings of credentials that fail in the same way, or agree on the user name. -/
inductive SameUser : Except DerivationError (Option BasicCredentials) →
    Except DerivationError (Option BasicCredentials) → Prop where
  -- Both fail.
  | error (e : DerivationError) : SameUser (.error e) (.error e)
  | none : SameUser (.ok none) (.ok none)
  -- The user names agree.
  | some (user x y : String) : SameUser (.ok (some ⟨user, x⟩)) (.ok (some ⟨user, y⟩))

/-- Credentials are read in both runs or in none. -/
theorem SameUser.ok_right {a b : Except DerivationError (Option BasicCredentials)}
    (h : SameUser a b) {k : Option BasicCredentials} (ha : a = .ok k) : ∃ l, b = .ok l := by
  cases h with
  | error e => cases ha
  | none => exact ⟨_, rfl⟩
  | some user x y => exact ⟨_, rfl⟩

/-- Credentials fail in both runs in the same way. -/
theorem SameUser.error_right {a b : Except DerivationError (Option BasicCredentials)}
    (h : SameUser a b) {e : DerivationError} (ha : a = .error e) : b = .error e := by
  cases h with
  | error f => exact ha
  | none => cases ha
  | some user x y => cases ha

/-- Credentials agree on the user name where the user names agree and the passwords can be read. -/
theorem sameUser_credentialsFor {p q : Properties} {u v : Url}
    (huser : readText p .proxyUser = readText q .proxyUser) (hname : u.username = v.username)
    (hpassword : readText p .proxyPassword = readText q .proxyPassword ∨
      ∃ x y, readText p .proxyPassword = .ok x ∧ readText q .proxyPassword = .ok y) :
    SameUser (credentialsFor p u) (credentialsFor q v) := by
  simp only [credentialsFor, huser, hname, bind, Except.bind, pure, Except.pure]
  cases readText q .proxyUser with
  | error e => exact .error e
  | ok user =>
    simp only
    -- A given user comes with a password, and otherwise the address may have a user.
    split
    · rcases hpassword with hpassword | ⟨x, y, hx, hy⟩
      · rw [hpassword]
        cases readText q .proxyPassword with
        | error e => exact .error e
        | ok x => exact .some _ _ _
      · rw [hx, hy]
        exact .some _ _ _
    · split
      · exact .some _ _ _
      · exact .none

/-! ### The end of a derivation -/

/-- What is derived from an accepted address. -/
def finish (p : Properties) (u : Url) :
    Except DerivationError (Option ProxyConfiguration) :=
  (credentialsFor p u).bind fun k => (stripped u).bind fun v => .ok (some ⟨v, k⟩)

/-- A derivation reads the address, if there is one, and goes on with it. -/
theorem derive_eq (p : Properties) :
    derive p = (readText p .proxyType).bind fun type => (checkType type).bind fun _ =>
      (address p).bind fun found => found.elim (.ok none) (finish p) := by
  rw [derive]
  refine congrArg _ (funext fun type => congrArg _ (funext fun _ => congrArg _ ?_))
  funext found
  cases found <;> rfl

/-- The password of the credentials is not shown. -/
theorem finish_looksLike {p q : Properties} {u v : Url}
    (huser : SameUser (credentialsFor p u) (credentialsFor q v))
    (hstripped : stripped u = stripped v) : LooksLike (finish p u) (finish q v) := by
  rw [finish, finish, ← hstripped]
  generalize credentialsFor p u = k at huser ⊢
  generalize credentialsFor q v = l at huser ⊢
  cases huser with
  | error e => exact .refl _
  | none => exact .refl _
  | some user x y =>
    cases stripped u with
    | error e => exact .refl _
    | ok w => exact ⟨rfl, rfl⟩

/-- Derivations look alike where types and addresses are the same and what is derived looks
alike. -/
theorem derive_looksLike {p q : Properties}
    (htype : readText p .proxyType = readText q .proxyType) (haddress : address p = address q)
    (hfinish : ∀ u, address p = .ok (some u) → LooksLike (finish p u) (finish q u)) :
    LooksLike (derive p) (derive q) := by
  rw [derive_eq, derive_eq, htype, ← haddress]
  -- What is the same in both runs is taken from the second one; only an address leads to a
  -- difference.
  cases readText q .proxyType with
  | error e => exact .refl _
  | ok type =>
    simp only [Except.bind]
    cases checkType type with
    | error e => exact .refl _
    | ok _ =>
      simp only
      cases h : address p with
      | error e => exact .refl _
      | ok found =>
        cases found with
        | none => exact .refl _
        | some u => exact hfinish u h

/-! ### The password as a property -/

/-- Addresses are found in the same way where the properties for them are read the same. -/
theorem address_congr {p q : Properties} (huri : readText p .proxyUri = readText q .proxyUri)
    (hhost : readText p .proxyHost = readText q .proxyHost)
    (hport : readInteger p .proxyPort = readInteger q .proxyPort) : address p = address q := by
  simp only [address, huri, hhost, hport]

/-- An address as a whole decides alone, once the host can be read. -/
theorem address_of_uri {p : Properties} {uri : String}
    (huri : readText p .proxyUri = .ok (some uri)) (given : uri ≠ "") :
    address p = (readText p .proxyHost).bind fun _ =>
      (readAddress uri).bind fun u => .ok (some u) := by
  simp only [address, huri, bind, Except.bind, pure, Except.pure, Option.getD_some]
  cases readText p .proxyHost with
  | error e => rfl
  | ok host => exact if_pos given

/-- The text of an address depends on the properties for it only. -/
theorem addressText_congr {p q : Properties} (huri : readText p .proxyUri = readText q .proxyUri)
    (hhost : readText p .proxyHost = readText q .proxyHost)
    (hport : readInteger p .proxyPort = readInteger q .proxyPort) {raw : String}
    (h : AddressText p raw) : AddressText q raw := by
  cases h with
  | uri hu hh hgiven => exact .uri (huri ▸ hu) (hhost ▸ hh) hgiven
  | host hu hh habsent hgiven hp hrange =>
    exact .host (huri ▸ hu) (hhost ▸ hh) habsent hgiven (hport ▸ hp) hrange

/-- There is one text that the address is read from. -/
theorem addressText_unique {p : Properties} {raw raw' : String} (h : AddressText p raw)
    (h' : AddressText p raw') : raw = raw' := by
  -- The two sources exclude each other, and each of them gives one text.
  cases h with
  | uri hu hh hgiven =>
    cases h' with
    | uri hu' hh' hgiven' =>
      cases hu.symm.trans hu'
      rfl
    | host hu' hh' habsent' hgiven' hp' hrange' =>
      cases hu.symm.trans hu'
      exact absurd habsent' hgiven
  | host hu hh habsent hgiven hp hrange =>
    cases h' with
    | uri hu' hh' hgiven' =>
      cases hu.symm.trans hu'
      exact absurd habsent hgiven'
    | host hu' hh' habsent' hgiven' hp' hrange' =>
      cases hh.symm.trans hh'
      cases hp.symm.trans hp'
      rfl

/-- The password under `ProxyPassword` is never seen. -/
theorem property_looksLike {p q : Properties} {x y : Option String}
    (same : SameBesides .proxyPassword p q) (left : readText p .proxyPassword = .ok x)
    (right : readText q .proxyPassword = .ok y) : LooksLike (derive p) (derive q) := by
  refine derive_looksLike (same.readText (by decide)) ?_ fun u _ => ?_
  · exact address_congr (same.readText (by decide)) (same.readText (by decide))
      (same.readInteger (by decide))
  · exact finish_looksLike
      (sameUser_credentialsFor (same.readText (by decide)) rfl (.inr ⟨x, y, left, right⟩)) rfl

/-- Nothing leaks where the address is the same. -/
theorem not_leaks_property {p q : Properties} (same : SameBesides .proxyPassword p q) :
    ¬Leaks p q := by
  have hraw : ∀ {raw raw'}, AddressText p raw → AddressText q raw' → raw = raw' := by
    intro raw raw' left right
    exact addressText_unique (addressText_congr (same.readText (by decide))
      (same.readText (by decide)) (same.readInteger (by decide)) left) right
  -- Both runs read the same text, so they cannot tell addresses apart.
  intro h
  cases h with
  | quoted _ left right differ _ => exact differ (hraw left right)
  | length _ left right leftRead rightRead _ differ =>
    cases hraw left right
    cases leftRead.symm.trans rightRead
    exact differ Iff.rfl

end Egress.ProxyConfiguration
