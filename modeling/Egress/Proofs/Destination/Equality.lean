import Egress.Proofs.Builder.History

/-!
# Equal destinations

Equality of destinations does not look at the proxy configuration, and loses nothing by that: equal
destinations have the same one. Values that are equal may differ in type, as may a truth value and a
number, or a text and a URL; but where both of them can be read at a type, the same is read.

## Key results

- `readText_eq_of_eqvItem`, `readInteger_eq_of_eqvItem`: equal values are read as one
- `ProxyConfiguration.derive_eq_of_agreeOn`: equal stores have one proxy configuration
- `Destination.proxy_eq_of_eqv`: equal destinations have one proxy configuration
-/

namespace Egress

open Value

/-! ### Equal values -/

/-- What is equal to a text is the text, a member with it, or a URL. -/
theorem text?_of_eqText {s : String} {w : Value} (h : eqText s w = .ok true) :
    w.text? = some s ∨ ∃ u, w = .url u := by
  cases w with
  | url u => exact .inr ⟨u, rfl⟩
  | _ => exact .inl (by simpa [eqText] using h)

/-- What is equal to bytes are the same bytes. -/
theorem bytes_of_eqv {access : Access} {data : List UInt8} {w : Value}
    (h : eqv (.bytes access data) w = .ok true) : ∃ access', w = .bytes access' data := by
  cases w with
  | bytes access' data' =>
    obtain rfl : data = data' := by simpa [eqv] using h
    exact ⟨access', rfl⟩
  | _ => simp [eqv] at h

/-- The integer that a number is. -/
def Value.size? (v : Value) : Option Int := v.integer?.or (v.number?.bind Binary64.toInt?)

/-- Equal numbers are the same integer, or none. -/
theorem size?_eq_of_eqNumber {v w : Value} (h : eqNumber v w = true) : v.size? = w.size? := by
  unfold eqNumber at h
  -- Two integers, an integer and none, and two floating-point numbers that are none.
  split at h
  · rename_i hv hw
    rw [Value.size?, Value.size?, hv, hw, beq_iff_eq.1 h]
    rfl
  · rename_i hv hw hno
    rw [Value.size?, Value.size?, hv, hw, Option.eq_none_iff_forall_ne_some.2 hno]
    exact (beq_iff_eq.1 h).symm
  · rename_i hv hw hno
    rw [Value.size?, Value.size?, hv, hw, Option.eq_none_iff_forall_ne_some.2 hno]
    exact beq_iff_eq.1 h
  · rename_i hv hw hno hno' _
    rw [Value.size?, Value.size?, hv, hw, Option.eq_none_iff_forall_ne_some.2 hno,
      Option.eq_none_iff_forall_ne_some.2 hno']
    exact Binary64.toInt?_eq_of_eq h
  · cases h

namespace PropertyType

/-- Equal values are read as one text where both can be read as a text. -/
theorem readText_eq_of_eqvItem {v w : Value} {s t : String} (h : eqvItem v w = .ok true)
    (hv : readText v = .ok s) (hw : readText w = .ok t) : s = t := by
  -- The text of one side is that of the other, as far as that has one.
  have htext : ∀ {r}, eqText r w = .ok true → t = r := by
    intro r hr
    rcases text?_of_eqText hr with hr | ⟨u, rfl⟩
    · cases w <;> cases hr <;> cases hw <;> rfl
    · cases hw
  cases v with
  | text r =>
    cases hv
    rw [eqvItem_eq (.inl rfl), eqv] at h
    exact (htext h).symm
  | member m =>
    cases hv
    rw [eqvItem_eq (.inl rfl), eqv] at h
    exact (htext h).symm
  | bytes access data =>
    rw [eqvItem_eq (.inl rfl)] at h
    obtain ⟨access', rfl⟩ := bytes_of_eqv h
    exact Except.ok.inj (hv.symm.trans hw)
  | _ => cases hv

/-- The integer of a floating-point number is the one that it is. -/
theorem toInt?_of_readInteger {x : Binary64} {n : Int} (h : readInteger (.float x) = .ok n) :
    x.toInt? = some n := by
  change integerOfFloat x = .ok n at h
  rw [integerOfFloat, guard_eq_ok] at h
  obtain ⟨_, h⟩ := h
  -- A number that is no integer, or too large, is not read.
  split at h
  · cases h
  · rename_i k hk
    split at h
    · cases h
      exact hk
    · cases h

/-- What is read from a number is the integer that it is. -/
theorem size?_of_readInteger {v : Value} {n : Int} (h : readInteger v = .ok n) :
    v.size? = none ∨ v.size? = some n := by
  cases v with
  | bool | int => exact .inr (congrArg some (Except.ok.inj h))
  | float x => exact .inr (toInt?_of_readInteger h)
  | _ => exact .inl rfl

/-- Equal values are read as one integer where both can be read as an integer. -/
theorem readInteger_eq_of_eqvItem {v w : Value} {m n : Int} (h : eqvItem v w = .ok true)
    (hv : readInteger v = .ok m) (hw : readInteger w = .ok n) : m = n := by
  -- for numbers, the sizes tell
  have hsize : v.size? = w.size? → v.size? ≠ none → m = n := by
    intro heq hne
    have hm := (size?_of_readInteger hv).resolve_left hne
    have hn := (size?_of_readInteger hw).resolve_left (heq ▸ hne)
    rw [heq, hn] at hm
    exact (Option.some.inj hm).symm
  -- a text is read from what is equal to it, unless that is a URL
  have htext : ∀ {r}, readInteger (.text r) = .ok m → eqText r w = .ok true → m = n := by
    intro r hr heq
    rcases text?_of_eqText heq with hw' | ⟨u, rfl⟩
    · cases w <;> cases hw' <;> exact Except.ok.inj (hr.symm.trans hw)
    · cases hw
  cases v with
  | bool | int =>
    rw [eqvItem_eq (.inl rfl), eqv] at h
    exact hsize (size?_eq_of_eqNumber (Except.ok.inj h)) nofun
  | float x =>
    have hx := toInt?_of_readInteger hv
    have hnan : ¬sameNan (.float x) w = true := by
      cases x with
      | nan => cases hx
      | _ => exact Bool.false_ne_true
    rw [eqvItem, if_neg hnan, eqv] at h
    refine hsize (size?_eq_of_eqNumber (Except.ok.inj h)) ?_
    change x.toInt? ≠ none
    rw [hx]
    exact nofun
  | text r =>
    rw [eqvItem_eq (.inl rfl), eqv] at h
    exact htext hv h
  | member r =>
    rw [eqvItem_eq (.inl rfl), eqv] at h
    exact htext hv h
  | bytes access data =>
    rw [eqvItem_eq (.inl rfl)] at h
    obtain ⟨access', rfl⟩ := bytes_of_eqv h
    cases access <;> cases access' <;> first | cases hv | cases hw | skip
    exact Except.ok.inj (hv.symm.trans hw)
  | _ => cases hv

end PropertyType

/-! ### Equal stores -/

/-- Two stores hold values that count as one under a name, or nothing. -/
def Properties.AgreeOn (p q : Properties) (k : Value) : Prop :=
  (p.get? k = none ∧ q.get? k = none) ∨
    ∃ v w, p.get? k = some v ∧ q.get? k = some w ∧ eqvItem v w = .ok true

/-- Equal stores agree on every name. -/
theorem Properties.agreeOn_of_eqv {p q : Properties} (hp : IsStore p.entries)
    (hq : IsStore q.entries) (h : p.eqv q = .ok true) {k : Value} (hk : k.IsName) :
    p.AgreeOn q k := entry?_of_eqv hp hq h hk

/-- What a read under a name gives: nothing where nothing is found, or else what is found, read as
`read` does. -/
inductive Properties.Reads (p : Properties) (read : Value → Except TypeFault α) (k : Value) :
    Option α → Prop
  | absent (missing : p.get? k = none) : Reads p read k none
  | found {v : Value} {a : α} (there : p.get? k = some v) (value : read v = .ok a) :
    Reads p read k (some a)

/-- Stores that agree on a name give one result under it, if equal values are read as one. -/
theorem Properties.Reads.eq_of_agreeOn {p q : Properties} {read : Value → Except TypeFault α}
    {k : Value} {r r' : Option α} (hp : p.Reads read k r) (hq : q.Reads read k r')
    (h : p.AgreeOn q k)
    (hread : ∀ {v w a b}, eqvItem v w = .ok true → read v = .ok a → read w = .ok b → a = b) :
    r = r' := by
  -- Either nothing is found on both sides, or equal values are.
  rcases h with ⟨hpn, hqn⟩ | ⟨v, w, hpv, hqw, hvw⟩
  · cases hp with
    | absent => cases hq with
      | absent => rfl
      | found there => rw [hqn] at there; cases there
    | found there => rw [hpn] at there; cases there
  · cases hp with
    | absent missing => rw [hpv] at missing; cases missing
    | found there value =>
      cases hq with
      | absent missing => rw [hqw] at missing; cases missing
      | found there' value' =>
        obtain rfl := Option.some.inj (hpv.symm.trans there)
        obtain rfl := Option.some.inj (hqw.symm.trans there')
        rw [hread hvw value value']

namespace ProxyConfiguration

variable {p q : Properties} {key : PropertyKey}

/-- Reading a text is a read of the store at its name. -/
theorem reads_of_readText {r : Option String} (h : readText p key = .ok r) :
    p.Reads PropertyType.readText (.text key.name) r := by
  unfold readText at h
  revert h
  fun_cases Properties.readText? p key with
  | case1 hmissing => rintro ⟨⟩; exact .absent hmissing
  | case2 v hfound s hread => rintro ⟨⟩; exact .found hfound hread
  | case3 => rintro ⟨⟩

/-- Reading an integer is a read of the store at its name. -/
theorem reads_of_readInteger {r : Option Int} (h : readInteger p key = .ok r) :
    p.Reads PropertyType.readInteger (.text key.name) r := by
  unfold readInteger at h
  revert h
  fun_cases Properties.readInteger? p key with
  | case1 hmissing => rintro ⟨⟩; exact .absent hmissing
  | case2 v hfound n hread => rintro ⟨⟩; exact .found hfound hread
  | case3 => rintro ⟨⟩

/-- Stores that agree on a key have one text under it, if both have one. -/
theorem readText_eq_of_agreeOn (h : p.AgreeOn q (.text key.name)) {s t : Option String}
    (hs : readText p key = .ok s) (ht : readText q key = .ok t) : s = t :=
  (reads_of_readText hs).eq_of_agreeOn (reads_of_readText ht) h PropertyType.readText_eq_of_eqvItem

/-- Stores that agree on a key have one integer under it, if both have one. -/
theorem readInteger_eq_of_agreeOn (h : p.AgreeOn q (.text key.name)) {m n : Option Int}
    (hm : readInteger p key = .ok m) (hn : readInteger q key = .ok n) : m = n :=
  (reads_of_readInteger hm).eq_of_agreeOn (reads_of_readInteger hn) h
    PropertyType.readInteger_eq_of_eqvItem

/-- Stores that agree on the keys of the address have one, if both have one. -/
theorem address_eq_of_agreeOn (h : ∀ key : PropertyKey, p.AgreeOn q (.text key.name))
    {a b : Option Url} (ha : address p = .ok a) (hb : address q = .ok b) : a = b := by
  obtain ⟨raw, hraw, ha⟩ := bind_eq_ok.1 ha
  obtain ⟨host, hhost, ha⟩ := bind_eq_ok.1 ha
  obtain ⟨raw', hraw', hb⟩ := bind_eq_ok.1 hb
  obtain ⟨host', hhost', hb⟩ := bind_eq_ok.1 hb
  -- The texts that were read are the same, so both runs take the same branch.
  obtain rfl := readText_eq_of_agreeOn (h .proxyUri) hraw hraw'
  obtain rfl := readText_eq_of_agreeOn (h .proxyHost) hhost hhost'
  split at ha
  · rename_i hne
    rw [if_pos hne] at hb
    exact Except.ok.inj (ha.symm.trans hb)
  · rename_i hempty
    rw [if_neg hempty] at hb
    split at ha
    · rename_i hne
      rw [if_pos hne] at hb
      obtain ⟨port, hport, ha⟩ := bind_eq_ok.1 ha
      obtain ⟨port', hport', hb⟩ := bind_eq_ok.1 hb
      obtain rfl := readInteger_eq_of_agreeOn (h .proxyPort) hport hport'
      exact Except.ok.inj (ha.symm.trans hb)
    · rename_i hempty'
      rw [if_neg hempty'] at hb
      exact Except.ok.inj (ha.symm.trans hb)

/-- Stores that agree on the keys of the credentials have the same for an address, if both have
them. -/
theorem credentialsFor_eq_of_agreeOn (h : ∀ key : PropertyKey, p.AgreeOn q (.text key.name))
    {u : Url} {a b : Option BasicCredentials} (ha : credentialsFor p u = .ok a)
    (hb : credentialsFor q u = .ok b) : a = b := by
  obtain ⟨user, huser, ha⟩ := bind_eq_ok.1 ha
  obtain ⟨user', huser', hb⟩ := bind_eq_ok.1 hb
  -- The users are the same, and with them the branch.
  obtain rfl := readText_eq_of_agreeOn (h .proxyUser) huser huser'
  dsimp only at ha hb
  split at ha
  · rename_i hne
    rw [if_pos hne] at hb
    obtain ⟨password, hpassword, ha⟩ := bind_eq_ok.1 ha
    obtain ⟨password', hpassword', hb⟩ := bind_eq_ok.1 hb
    obtain rfl := readText_eq_of_agreeOn (h .proxyPassword) hpassword hpassword'
    exact Except.ok.inj (ha.symm.trans hb)
  · rename_i hempty
    rw [if_neg hempty] at hb
    exact Except.ok.inj (ha.symm.trans hb)

/-- Stores that agree on every key have one proxy configuration, if one can be derived from both. -/
theorem derive_eq_of_agreeOn (h : ∀ key : PropertyKey, p.AgreeOn q (.text key.name))
    {a b : Option ProxyConfiguration} (ha : derive p = .ok a) (hb : derive q = .ok b) : a = b := by
  obtain ⟨type, htype, ha⟩ := bind_eq_ok.1 ha
  obtain ⟨_, _, ha⟩ := bind_eq_ok.1 ha
  obtain ⟨uri, huri, ha⟩ := bind_eq_ok.1 ha
  obtain ⟨type', htype', hb⟩ := bind_eq_ok.1 hb
  obtain ⟨_, _, hb⟩ := bind_eq_ok.1 hb
  obtain ⟨uri', huri', hb⟩ := bind_eq_ok.1 hb
  -- The address is the same, and the credentials are those for it.
  obtain rfl := address_eq_of_agreeOn h huri huri'
  cases uri with
  | none => exact Except.ok.inj (ha.symm.trans hb)
  | some uri =>
    obtain ⟨credentials, hcredentials, ha⟩ := bind_eq_ok.1 ha
    obtain ⟨credentials', hcredentials', hb⟩ := bind_eq_ok.1 hb
    obtain rfl := credentialsFor_eq_of_agreeOn h hcredentials hcredentials'
    exact Except.ok.inj (ha.symm.trans hb)

end ProxyConfiguration

/-! ### Equal destinations -/

namespace Destination

/-- A destination as it is made with the rule of this library: its properties are a store, and its
proxy configuration is the one that follows from them. -/
structure IsMade (d : Destination) : Prop where
  store : IsStore d.properties.entries
  derived : ProxyConfiguration.derive d.properties = .ok d.proxy

/-- A destination may be made of the properties of a dictionary. -/
theorem isMade_ofEntries {entries : List (Value × Value)} {headers providers : List Value}
    {proxy : Option ProxyConfiguration} (hn : AreNamed entries)
    (h : ProxyConfiguration.derive (.ofEntries (putAll entries)) = .ok proxy) :
    IsMade ⟨.ofEntries (putAll entries), headers, providers, proxy⟩ := by
  refine ⟨?_, h⟩
  rw [Properties.ofEntries, freezeEntries_eq_map]
  exact (isStore_putAll hn).map freeze

/-- A destination may be made by a builder, after any calls on it. -/
theorem isMade_of_build {b : Builder} {events : List Builder.Event} {look : Value → Value}
    {f : DerivationError → ε} {d : Destination} (hb : Builder.Holds b.draft.entries events)
    (h : (b.withAddress.build look fun p =>
      (ProxyConfiguration.deriveLogged p).mapError f).result = .ok d) : d.IsMade := by
  obtain ⟨proxy, hproxy, rfl⟩ := Builder.build_eq_ok.1 h
  -- The store is one that a builder holds, frozen; the configuration is derived from it.
  refine ⟨?_, ?_⟩
  · rw [Draft.build, Properties.ofEntries, freezeEntries_eq_map]
    exact (hb.withAddress.store.map look).map freeze
  · rw [Logged.mapError, ProxyConfiguration.deriveLogged] at hproxy
    dsimp only at hproxy
    split at hproxy
    · rename_i hderive
      cases hproxy
      exact hderive
    · cases hproxy

/-- Equal destinations have one proxy configuration. -/
theorem proxy_eq_of_eqv {d e : Destination} (hd : d.IsMade) (he : e.IsMade)
    (h : d.eqv e = .ok true) : d.proxy = e.proxy := by
  obtain ⟨hproperties, _⟩ := andThen_eq_true.1 h
  refine ProxyConfiguration.derive_eq_of_agreeOn (fun key => ?_) hd.derived he.derived
  exact Properties.agreeOn_of_eqv hd.store he.store hproperties (isName_of_isKey rfl)

/-- Properties may be equal though their types and their order differ. -/
theorem proxy_eq_of_eqv_mixed :
    let proxy : ProxyConfiguration := ⟨⟨"http", "", "proxy", some 8080, "", none, none⟩, none⟩
    let d : Destination := ⟨.ofEntries (putAll [(.text "ProxyType", .text "Internet"),
      (.text "ProxyHost", .text "proxy"), (.text "ProxyPort", .int 8080)]), [], [], some proxy⟩
    let e : Destination := ⟨.ofEntries (putAll [
      (.text "ProxyPort", .float (.finite false 8884053952430080 (-40))),
      (.text "ProxyHost", .text "proxy"),
      (.text "ProxyType", .member (.proxy .internet))]), [], [], some proxy⟩
    d.IsMade ∧ e.IsMade ∧ d.eqv e = .ok true ∧ d.proxy = e.proxy := by
  intro proxy d e
  have hd : d.IsMade := isMade_ofEntries (areNamed_of_all rfl) (by decide +kernel)
  have he : e.IsMade := isMade_ofEntries (areNamed_of_all rfl) (by decide +kernel)
  have h : d.eqv e = .ok true := by decide +kernel
  exact ⟨hd, he, h, proxy_eq_of_eqv hd he h⟩

end Destination

end Egress
