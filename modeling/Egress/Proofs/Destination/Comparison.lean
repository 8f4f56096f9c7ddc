import Egress.Proofs.Destination.Equality
import Egress.Proofs.Value.Digest
import Egress.Proofs.Value.Plain

/-!
# Comparing destinations

When two destinations are equal: their stores hold equal values under equal names in any order, and
their headers have the same texts in the same order. Nothing else is looked at. Equal destinations
share their digest, though their values may be ones that cannot be hashed.

## Key results

- `Properties.eqv_iff`: when stores are equal
- `Properties.digest_eq_of_eqv`: equal stores share their digest
- `Destination.eqv_headers_iff`: when headers are equal
- `Destination.eqv_iff_sameEntries`: when destinations are equal, and what follows
-/

namespace Egress

open Value

/-! ### Stores -/

namespace Properties

/-- The entries of a dictionary: their names can be hashed and are told apart. -/
structure IsDictionary (p : Properties) : Prop where
  store : IsStore p.entries
  -- Every name can be looked up.
  found : AreFound p.entries

/-- Two stores hold the same: the entries of one, listed in some order, are those of the other, with
names and values that count as one. -/
def SameEntries (p q : Properties) : Prop :=
  ∃ l, l.Perm q.entries ∧
    List.Forall₂ (fun e f => eqvItem e.1 f.1 = .ok true ∧ eqvItem e.2 f.2 = .ok true) p.entries l

/-- A store is a dictionary when it is made of one. -/
theorem isDictionary_ofEntries {entries : List (Value × Value)} (h : IsStore entries)
    (hfound : AreFound entries) : (ofEntries entries).IsDictionary := by
  refine ⟨?_, ?_⟩
  · rw [ofEntries, freezeEntries_eq_map]
    exact h.map freeze
  · rw [ofEntries, freezeEntries_eq_map]
    intro e he
    obtain ⟨f, hf, rfl⟩ := List.mem_map.1 he
    exact hfound f hf

variable {p q : Properties}

/-- A name of a dictionary can be hashed. -/
theorem IsDictionary.exists_digest (h : p.IsDictionary) {e : Value × Value} (he : e ∈ p.entries) :
    ∃ d, e.1.digest = .ok d := by
  obtain ⟨d, hd, _⟩ := sameDigest_iff.1 (sameKey_eq_true.1 (h.found e he)).1
  exact ⟨d, hd⟩

/-- Names of dictionaries are of one entry when they are equal. -/
theorem IsDictionary.sameKey_iff (hp : p.IsDictionary) (hq : q.IsDictionary)
    {e f : Value × Value} (he : e ∈ p.entries) (hf : f ∈ q.entries) :
    sameKey e.1 f.1 = true ↔ eqvItem e.1 f.1 = .ok true := by
  obtain ⟨d, hd⟩ := hp.exists_digest he
  obtain ⟨d', hd'⟩ := hq.exists_digest hf
  exact sameKey_iff_eqvItem (hp.store.named e he) (hq.store.named f hf) hd hd'

/-- The entries of dictionaries match when they are the same in some order. -/
theorem matches_iff_sameEntries (hp : p.IsDictionary) (hq : q.IsDictionary) :
    Matches p.entries q.entries ↔ p.SameEntries q := by
  -- The names of dictionaries are the same keys exactly when they are equal, so the two relations
  -- agree on the entries.
  have hiff : ∀ {l : List (Value × Value)}, l.Perm q.entries →
      (List.Forall₂ (fun e f => sameKey e.1 f.1 = true ∧ eqvItem e.2 f.2 = .ok true) p.entries l ↔
        List.Forall₂ (fun e f => eqvItem e.1 f.1 = .ok true ∧ eqvItem e.2 f.2 = .ok true)
          p.entries l) := by
    intro l hl
    rw [List.forall₂_iff_zip, List.forall₂_iff_zip]
    refine and_congr_right fun _ => forall_congr' fun e => forall_congr' fun f => ?_
    refine imp_congr_right fun hef => ?_
    obtain ⟨he, hf⟩ := List.of_mem_zip hef
    rw [hp.sameKey_iff hq he (hl.mem_iff.1 hf)]
  constructor
  · rintro ⟨l, hl, h⟩
    exact ⟨l, hl, (hiff hl).1 h⟩
  · rintro ⟨l, hl, h⟩
    exact ⟨l, hl, (hiff hl).2 h⟩

/-- Stores are equal exactly when they hold equal values under equal names, in any order. -/
theorem eqv_iff (hp : p.IsDictionary) (hq : q.IsDictionary) :
    p.eqv q = .ok true ↔ p.SameEntries q := by
  rw [← matches_iff_sameEntries hp hq]
  exact ⟨matches_of_eqv hp.store hq.store, eqv_of_matches hp.store hq.store⟩

/-- Names that stand beside names of the same entries have the same digests. -/
theorem digests_eq_of_forall₂ {l m : List (Value × Value)}
    (h : List.Forall₂ (fun e f => sameKey e.1 f.1 = true ∧ eqvItem e.2 f.2 = .ok true) l m) :
    ∃ ds, digests (l.map (·.1)) = .ok ds ∧ digests (m.map (·.1)) = .ok ds := by
  induction h with
  | nil => exact ⟨[], rfl, rfl⟩
  | cons hef _ ih =>
    obtain ⟨d, hd, hd'⟩ := sameDigest_iff.1 (sameKey_eq_true.1 hef.1).1
    obtain ⟨ds, hds, hds'⟩ := ih
    refine ⟨d :: ds, ?_, ?_⟩
    · rw [List.map_cons, digests, hd, hds]
      rfl
    · rw [List.map_cons, digests, hd', hds']
      rfl

/-- Equal stores share their digest, whatever values they hold. -/
theorem digest_eq_of_eqv (hp : IsStore p.entries) (hq : IsStore q.entries)
    (h : p.eqv q = .ok true) : ∃ d, p.digest = .ok d ∧ q.digest = .ok d := by
  obtain ⟨l, hl, hpartners⟩ := matches_of_eqv hp hq h
  obtain ⟨ds, hds, hds'⟩ := digests_eq_of_forall₂ hpartners
  -- The digest of a store is that of the set of its names.
  have hdigest : ∀ {items : List Value}, digests items = .ok ds →
      (set .frozen items).digest =
        .ok ("<" ++ ",".intercalate (ds.mergeSort fun a b => decide (a ≤ b)) ++ ">") := by
    intro items hitems
    rw [Value.digest, hitems]
    rfl
  exact ⟨_, hdigest hds, digest_set_of_perm (hl.map (·.1)) (hdigest hds')⟩

end Properties

/-! ### Headers -/

namespace Value

/-- A value with a text is a key, and the text is its core. -/
theorem isKey_of_text? {v : Value} {s : String} (h : v.text? = some s) :
    v.isKey = true ∧ v.core = .text s ∧ ∃ d, v.digest = .ok d := by
  cases v with
  | text t | member m =>
    cases h
    exact ⟨rfl, rfl, _, by rw [digest]⟩
  | _ => cases h

/-- A header with texts is a key, and its core are the texts. -/
theorem isKey_of_isTextHeader {h : Value} (hh : h.isTextHeader) :
    ∃ n v, h.headerTexts? = some (n, v) ∧ h.isKey = true ∧ h.core = .header (.text n) (.text v) ∧
      ∃ d, h.digest = .ok d := by
  cases h with
  | header name value =>
    simp only [isTextHeader, Bool.and_eq_true, Option.isSome_iff_exists] at hh
    obtain ⟨⟨n, hn⟩, v, hv⟩ := hh
    -- Each of the two parts has a text, and with it a core and a digest.
    obtain ⟨hnk, hnc, d, hd⟩ := isKey_of_text? hn
    obtain ⟨hvk, hvc, d', hd'⟩ := isKey_of_text? hv
    refine ⟨n, v, ?_, ?_, ?_, "(" ++ d ++ "," ++ d' ++ ")", ?_⟩
    · simp [headerTexts?, hn, hv]
    · rw [isKey, hnk, hvk, Bool.and_self]
    · rw [core, hnc, hvc]
    · rw [digest, hd, hd']
      rfl
  | _ => cases hh

/-- Headers with texts are keys, and have the same cores when they have the same texts. -/
theorem cores_eq_iff {hs gs : List Value} (hhs : ∀ h ∈ hs, h.isTextHeader)
    (hgs : ∀ g ∈ gs, g.isTextHeader) :
    cores hs = cores gs ↔ hs.map headerTexts? = gs.map headerTexts? := by
  -- By induction on the headers of one side; lists of different lengths agree in nothing.
  induction hs generalizing gs with
  | nil => cases gs <;> simp [cores]
  | cons h rest ih =>
    cases gs with
    | nil => simp [cores]
    | cons g rest' =>
      obtain ⟨hh, hrest⟩ := List.forall_mem_cons.1 hhs
      obtain ⟨hg, hrest'⟩ := List.forall_mem_cons.1 hgs
      obtain ⟨n, v, htexts, _, hcore, _⟩ := isKey_of_isTextHeader hh
      obtain ⟨m, w, htexts', _, hcore', _⟩ := isKey_of_isTextHeader hg
      rw [cores, cores, List.cons.injEq, ih hrest hrest', hcore, hcore', List.map_cons,
        List.map_cons, List.cons.injEq, htexts, htexts']
      simp

/-- Headers with texts can be compared with keys and can be hashed. -/
theorem areKeys_of_isTextHeader {hs : List Value} (hhs : ∀ h ∈ hs, h.isTextHeader) :
    areKeys hs = true ∧ ∃ ds, digests hs = .ok ds := by
  induction hs with
  | nil => exact ⟨rfl, [], rfl⟩
  | cons h rest ih =>
    obtain ⟨hh, hrest⟩ := List.forall_mem_cons.1 hhs
    obtain ⟨_, _, _, hkey, _, d, hd⟩ := isKey_of_isTextHeader hh
    obtain ⟨hkeys, ds, hds⟩ := ih hrest
    refine ⟨?_, d :: ds, ?_⟩
    · rw [areKeys, hkey, hkeys, Bool.and_self]
    · rw [digests, hd, hds]
      rfl

end Value

namespace Destination

variable {d e : Destination}

/-- Headers with texts are equal exactly when their texts are the same, in order. -/
theorem eqv_headers_iff (hd : ∀ h ∈ d.headers, h.isTextHeader)
    (he : ∀ h ∈ e.headers, h.isTextHeader) :
    (Value.seq .frozen d.headers).eqv (.seq .frozen e.headers) = .ok true ↔
      d.headers.map headerTexts? = e.headers.map headerTexts? := by
  have hkey : (Value.seq .frozen d.headers).isKey = true := (areKeys_of_isTextHeader hd).1
  have hkey' : (Value.seq .frozen e.headers).isKey = true := (areKeys_of_isTextHeader he).1
  rw [← eqvItem_eq (.inl rfl), ← cores_eq_iff hd he, eqvItem_iff _ _ hkey hkey', core, core]
  simp

/-- Headers with the same texts share their digest. -/
theorem digest_headers_eq (hd : ∀ h ∈ d.headers, h.isTextHeader)
    (he : ∀ h ∈ e.headers, h.isTextHeader)
    (h : d.headers.map headerTexts? = e.headers.map headerTexts?) :
    ∃ s, (Value.seq .frozen d.headers).digest = .ok s ∧
      (Value.seq .frozen e.headers).digest = .ok s := by
  obtain ⟨_, ds, hds⟩ := areKeys_of_isTextHeader hd
  obtain ⟨_, es, hes⟩ := areKeys_of_isTextHeader he
  -- Headers with the same texts have the same cores, and the digests are read off the cores.
  have hcores := digests_cores _ hds
  rw [(cores_eq_iff hd he).2 h, digests_cores _ hes] at hcores
  obtain rfl := Except.ok.inj hcores
  refine ⟨"(" ++ ",".intercalate es ++ ")", ?_, ?_⟩
  · rw [Value.digest, hds]
    rfl
  · rw [Value.digest, hes]
    rfl

/-! ### Destinations -/

/-- A destination with the properties of a dictionary, and with headers that have texts. -/
structure IsComparable (d : Destination) : Prop where
  properties : d.properties.IsDictionary
  headers : ∀ h ∈ d.headers, h.isTextHeader

/-- Destinations are equal exactly when their stores hold equal values under equal names, in any
order, and their headers have the same texts, in the same order. Providers and the proxy
configuration do not matter, destinations differ when they are not equal, and equal ones share their
digest, whatever values their stores hold. -/
theorem eqv_iff_sameEntries (hd : d.IsComparable) (he : e.IsComparable) :
    (d.eqv e = .ok true ↔ d.properties.SameEntries e.properties ∧
      d.headers.map headerTexts? = e.headers.map headerTexts?) ∧
    (∀ providers providers' proxy proxy',
      Destination.eqv { d with providers := providers, proxy := proxy }
        { e with providers := providers', proxy := proxy' } = d.eqv e ∧
      Destination.digest { d with providers := providers, proxy := proxy } = d.digest) ∧
    (∀ equal, d.eqv e = .ok equal ↔ d.differ e = .ok (!equal)) ∧
    (d.eqv e = .ok true → ∃ s, d.digest = .ok s ∧ e.digest = .ok s) := by
  -- Equality, what it does not look at, inequality, and digests.
  refine ⟨?_, fun _ _ _ _ => ⟨rfl, rfl⟩, fun equal => ?_, fun h => ?_⟩
  · rw [eqv, andThen_eq_true, Properties.eqv_iff hd.properties he.properties,
      eqv_headers_iff hd.headers he.headers]
  · rw [differ, map_eq_ok]
    constructor
    · intro h
      exact ⟨equal, h, rfl⟩
    · rintro ⟨b, hb, hnot⟩
      rw [hb, Bool.not_inj hnot]
  · obtain ⟨hproperties, hheaders⟩ := andThen_eq_true.1 h
    obtain ⟨s, hs, hs'⟩ :=
      Properties.digest_eq_of_eqv hd.properties.store he.properties.store hproperties
    obtain ⟨t, ht, ht'⟩ :=
      digest_headers_eq hd.headers he.headers ((eqv_headers_iff hd.headers he.headers).1 hheaders)
    -- The digest of a destination is put together from those of its two parts.
    refine ⟨"(" ++ s ++ "," ++ t ++ ")", ?_, ?_⟩
    · rw [digest, hs, ht]
      rfl
    · rw [digest, hs', ht']
      rfl

/-- Destinations may be equal though the order and the types of names and values differ, and some
values cannot be hashed. -/
theorem eqv_iff_sameEntries_mixed :
    let entries : List (Value × Value) := putAll [(.text "URL", .text "http://u"),
      (.int 1, .seq .mutable [.int 1]),
      (.seq .frozen [.int 2, .text "x"], .map .mutable [(.text "k", .bytes .mutable [1])])]
    let entries' : List (Value × Value) := putAll [
      (.seq .frozen [.float (.finite false 4503599627370496 (-51)), .text "x"],
        .map .frozen [(.text "k", .bytes .frozen [1])]),
      (.bool true, .seq .frozen [.bool true]), (.text "URL", .text "http://u")]
    let d : Destination := ⟨.ofEntries entries, [.header (.text "OnPremise") (.text "v")], [], none⟩
    let e : Destination := ⟨.ofEntries entries',
      [.header (.member (.proxy .onPremise)) (.text "v")], [.null],
      some ⟨⟨"http", "", "proxy", none, "", none, none⟩, none⟩⟩
    d.IsComparable ∧ e.IsComparable ∧ d.properties.SameEntries e.properties ∧
      d.differ e = .ok false ∧ ∃ s, d.digest = .ok s ∧ e.digest = .ok s := by
  intro entries entries' d e
  -- That the entries form dictionaries is checked name by name.
  have hd : d.IsComparable :=
    ⟨Properties.isDictionary_ofEntries (isStore_putAll (areNamed_of_all rfl))
      (areFound_putAll (areFound_of_all (by decide +kernel))), by decide +kernel⟩
  have he : e.IsComparable :=
    ⟨Properties.isDictionary_ofEntries (isStore_putAll (areNamed_of_all rfl))
      (areFound_putAll (areFound_of_all (by decide +kernel))), by decide +kernel⟩
  have h : d.eqv e = .ok true := by decide +kernel
  obtain ⟨hiff, -, hdiffer, hdigest⟩ := eqv_iff_sameEntries hd he
  exact ⟨hd, he, (hiff.1 h).1, (hdiffer true).1 h, hdigest h⟩

end Destination

end Egress
