import Egress.Proofs.Builder.History
import Egress.Proofs.Proxy.Derivation
import Egress.Proofs.Value.Plain
import Egress.Proofs.Value.Sound
import Egress.Session.Step

/-!
# Builds between calls

A build leaves its default address in the builder, so that a builder that was built in between goes
through other states than one that was not: the address is there or not, and its place among the
names differs. What the two builders would hold with the default address stays the same under every
name, over calls that set or remove the address as well. So the last build gives the same error or
equal destinations.

## Key results

- `Builder.Op`, `Builder.after`: calls and builds, and what they make of a builder
- `Builder.WithBuilds`: operations with more builds among them
- `Builder.BuildsLike`: two builders that a build cannot tell apart, which calls and builds keep
- `Builder.outcome_withBuilds`: more builds do not change the outcome of the last one
-/

namespace Egress.Builder

open Value Session

variable {b b' : Builder} {c : Call} {k : Value} {s : State}

/-! ### Operations -/

/-- What is done with a builder: a call or a build. -/
inductive Op where
  | call (c : Call)
  | build

/-- A builder after some operations, calls that fail among them; a build sets the address, whether a
proxy configuration can be derived or not. -/
def after (b : Builder) : List Op → Builder
  | [] => b
  | .call c :: rest => (b.call c).1.after rest
  | .build :: rest => b.withAddress.after rest

/-- Operations with more builds among them. -/
inductive WithBuilds : List Op → List Op → Prop
  | nil : WithBuilds [] []
  -- An operation of both.
  | both (op : Op) {ops ops' : List Op} (rest : WithBuilds ops ops') :
    WithBuilds (op :: ops) (op :: ops')
  -- A build that comes in addition.
  | more {ops ops' : List Op} (rest : WithBuilds ops ops') : WithBuilds ops (.build :: ops')

/-- The outcome of a build in a session: a destination, or why there is none. -/
def outcome (b : Builder) (s : State) : Except Failure Destination :=
  (b.withAddress.build s.resolve (Factory.derive (factory? s (b.factory.elim .null .ref)))).result

/-- Outcomes that agree: the same error, or equal destinations with the same headers, providers and
proxy configuration. -/
inductive SameOutcome (s : State) : Except Failure Destination → Except Failure Destination → Prop
  | failed (e : Failure) : SameOutcome s (.error e) (.error e)
  | built {d d' : Destination}
    -- Headers are compared as they are at present.
    (equal : Destination.eqv { d with headers := d.headers.map s.resolve }
      { d' with headers := d'.headers.map s.resolve } = .ok true)
    (headers : d.headers = d'.headers) (providers : d.providers = d'.providers)
    (proxy : d.proxy = d'.proxy) : SameOutcome s (.ok d) (.ok d')

/-! ### Calls -/

/-- A call about a name that is told apart from others, with a value and headers that are sound at
present. -/
structure Call.IsFit (s : State) (c : Call) : Prop where
  name : ∀ e, c.event? = some e → e.name.IsName
  value : ∀ n v, c.event? = some (.assigned n v) → (s.resolve v).isSound = true
  headers : ∀ h ∈ c.addedHeaders, (s.resolve h).isSound = true

/-- What is found under a name after a call, if `old` was found before. -/
def Call.found (c : Call) (k : Value) (old : Option Value) : Option Value :=
  match c.event? with
  | some e => if sameKey e.name k = true then e.value? else old
  | none => old

/-- What has no digest is the same key as nothing. -/
theorem not_sameKey_of_digest {e : Unhashable} {a : Value} (h : a.digest = .error e) :
    sameKey a k = false := by
  rw [Bool.eq_false_iff]
  intro hsame
  obtain ⟨d, hd, _⟩ := sameDigest_iff.1 (sameKey_eq_true.1 hsame).1
  rw [h] at hd
  cases hd

/-- A call that fails is about no name that could be found. -/
theorem found_of_failed {e : BuilderError} (h : (b.call c).2 = some e) (old : Option Value) :
    c.found k old = old := by
  -- Only calls with a name are about one, and they fail when the name has no digest.
  cases c with
  | property name value =>
    simp only [call, put] at h
    split at h
    · rename_i hd
      simp only [Call.found, Call.event?, Event.name, not_sameKey_of_digest hd]
      rfl
    · cases h
  | removeProperty name =>
    simp only [call, erase] at h
    split at h
    · cases h
    · split at h
      · rename_i hd
        simp only [Call.found, Call.event?, Event.name, not_sameKey_of_digest hd]
        rfl
      · cases h
  | instanceName name => cases h
  | _ => rfl

/-- A value is assigned only under a name that can be looked up. -/
theorem sameKey_self_of_call (h : (b.call c).2 = none) {n v : Value}
    (hevent : c.event? = some (.assigned n v)) (hn : n.IsName) : sameKey n n = true := by
  cases c with
  | property name value =>
    -- A name that cannot be hashed is refused, so the assigned one is like itself.
    cases hevent
    simp only [call, put] at h
    split at h
    · cases h
    · rename_i hd
      exact sameKey_self hn hd
  | instanceName name =>
    cases hevent
    exact sameKey_self hn rfl
  | _ => cases hevent

/-- The properties after a call, which change only if it succeeds. -/
theorem entries_call (b : Builder) (c : Call) : (b.call c).1.draft.entries =
    if (b.call c).2 = none then c.event?.elim b.draft.entries (Event.apply b.draft.entries)
    else b.draft.entries := by
  rw [(follows_call b c).entries]
  cases (b.call c).2 with
  | some e => simp [Attempt.event?]
  | none =>
    have hevent : Attempt.event? ⟨c, none⟩ = c.event? := rfl
    cases h : c.event? <;> simp [hevent, h]

/-- What is found after a call. -/
theorem entry?_call (hn : AreNamed b.draft.entries) (hc : ∀ e, c.event? = some e → e.name.IsName)
    (hk : k.IsName) :
    entry? (b.call c).1.draft.entries k = c.found k (Value.entry? b.draft.entries k) := by
  rw [entries_call]
  -- A failed call is about no name; a successful one does what its event says.
  cases hfailed : (b.call c).2 with
  | some e => rw [if_neg (Option.some_ne_none e), found_of_failed hfailed]
  | none =>
    rw [if_pos rfl, Call.found]
    cases hevent : c.event? with
    | none => rfl
    | some e =>
      have hname := hc e hevent
      cases e with
      | assigned n v => exact entry?_putEntry hn hname hk
      | removed n => exact entry?_eraseEntry hn hname hk

/-- Adding a header does not depend on what is there. -/
theorem addHeader_eq (b : Builder) (h v : Value) : b.addHeader h v =
    (({} : Builder).addHeader h v).map fun added => { b with
      headers := b.headers ++ added.headers, providers := b.providers ++ added.providers } := by
  unfold addHeader
  split <;> simp [Except.map]

/-- The headers and providers that a call adds do not depend on the builder, and what derives the
proxy configuration stays. -/
theorem added_call (b : Builder) (c : Call) :
    (b.call c).1.headers = b.headers ++ (({} : Builder).call c).1.headers ∧
      (b.call c).1.providers = b.providers ++ (({} : Builder).call c).1.providers ∧
      (b.call c).1.factory = b.factory := by
  -- Each call fails or succeeds on both builders alike, and adds the same.
  cases c with
  | property name value =>
    simp only [call, put]
    cases name.value.digest <;> simp [unlessRefused]
  | removeProperty name =>
    simp only [call, erase]
    cases b.draft.entries.isEmpty <;> cases name.value.digest <;> simp [unlessRefused]
  | header h v =>
    simp only [call, addHeader_eq b]
    cases (({} : Builder).addHeader h v) <;> simp [Except.map, unlessRefused]
  | fixed f v =>
    simp only [call, addFixed, addHeader_eq b]
    cases (({} : Builder).addHeader (.text f.name) v) <;> simp [Except.map, unlessRefused]
  | headers given => simp [call, addHeaders]
  | headerProviders gives providers =>
    simp only [call, addProviders]
    cases providers.find? (!gives ·) <;> simp [unlessRefused]
  | instanceName name => simp [call, setInstance]
  | get name => simp [call]

/-! ### Builders at a build -/

/-- A builder whose names can be looked up and are told apart, with values and headers that are
sound at present. -/
structure IsFit (s : State) (b : Builder) : Prop where
  store : IsStore b.draft.entries
  found : AreFound b.draft.entries
  values : ∀ e ∈ b.draft.entries, (s.resolve e.2).isSound = true
  headers : ∀ h ∈ b.headers, (s.resolve h).isSound = true

/-- A new builder holds nothing that could be unfit. -/
theorem isFit_new (s : State) (factory : Option Nat) : IsFit s { factory := factory } :=
  ⟨isStore_nil, List.forall_mem_nil _, List.forall_mem_nil _, List.forall_mem_nil _⟩

/-- A value may be put under a name. -/
theorem IsFit.put (h : IsFit s b) {n v : Value} (hn : n.IsName) (hself : sameKey n n = true)
    (hv : (s.resolve v).isSound = true) : IsFit s { b with draft := b.draft.put n v } where
  store := h.store.put hn
  found := h.found.put hself
  values := forall_snd_putEntry (Q := fun v => (s.resolve v).isSound = true) h.values hv
  headers := h.headers

/-- The default address keeps a builder fit. -/
theorem IsFit.withAddress (h : IsFit s b) : IsFit s b.withAddress := by
  rw [withAddress_eq]
  split
  · exact h
  · refine h.put (isName_of_isKey rfl) (sameKey_self (isName_of_isKey rfl) rfl) ?_
    rw [resolve_of_isPlain s rfl]
    rfl

/-- So does removing a property. -/
theorem IsFit.erase (h : IsFit s b) (n : Value) : IsFit s { b with draft := b.draft.erase n } where
  store := h.store.erase
  found e he := h.found e (List.mem_filter.1 he).1
  values e he := h.values e (List.mem_filter.1 he).1
  headers := h.headers

/-- The headers that a call leaves are among those that it gives. -/
theorem mem_addedHeaders {h : Value} {failure : Option BuilderError}
    (hmem : h ∈ (Attempt.mk c failure).headers) : h ∈ c.addedHeaders := by
  cases failure with
  | none => exact hmem
  | some e =>
    cases c with
    | headers given => exact hmem
    | _ => cases hmem

/-- A fit call keeps a builder fit. -/
theorem IsFit.call (h : IsFit s b) (hc : c.IsFit s) : IsFit s (b.call c).1 := by
  have hentries := entries_call b c
  -- The draft first: what the event of the call does to the entries. The headers follow below.
  have hdraft : IsFit s { b with draft := (b.call c).1.draft } := by
    have heq : (b.call c).1.draft = ⟨(b.call c).1.draft.entries⟩ := rfl
    rw [heq, hentries]
    split
    · rename_i hcall
      cases hevent : c.event? with
      | none => exact h
      | some e =>
        cases e with
        | assigned n v =>
          have hname : n.IsName := hc.name _ hevent
          exact h.put hname (sameKey_self_of_call hcall hevent hname) (hc.value n v hevent)
        | removed n => exact h.erase n
    · exact h
  refine ⟨hdraft.store, hdraft.found, hdraft.values, ?_⟩
  rw [(follows_call b c).headers, List.flatMap_singleton]
  intro header hmem
  rcases List.mem_append.1 hmem with hold | hnew
  · exact h.headers header hold
  · exact hc.headers header (mem_addedHeaders hnew)

/-- Fit calls keep a builder fit, with builds in between. -/
theorem IsFit.after (h : IsFit s b) {ops : List Op} (hops : ∀ c, Op.call c ∈ ops → c.IsFit s) :
    IsFit s (b.after ops) := by
  induction ops generalizing b with
  | nil => exact h
  | cons op rest ih =>
    have hrest : ∀ c, Op.call c ∈ rest → c.IsFit s := fun c hc => hops c (List.mem_cons_of_mem _ hc)
    cases op with
    | call c => exact ih (h.call (hops c List.mem_cons_self)) hrest
    | build => exact ih h.withAddress hrest

/-- Two builders of which builds make the same: with the default address they hold the same under
every name, and they have the same headers and providers. -/
structure BuildsLike (b b' : Builder) : Prop where
  found : ∀ k, k.IsName →
    entry? b.withAddress.draft.entries k = entry? b'.withAddress.draft.entries k
  headers : b.headers = b'.headers
  providers : b.providers = b'.providers
  factory : b.factory = b'.factory

namespace BuildsLike

theorem refl (b : Builder) : BuildsLike b b := ⟨fun _ _ => rfl, rfl, rfl, rfl⟩

/-- A build of one of them goes unnoticed. -/
theorem more (h : BuildsLike b b') : BuildsLike b b'.withAddress where
  found k hk := by rw [withAddress_withAddress, h.found k hk]
  headers := by rw [headers_withAddress, h.headers]
  providers := by rw [providers_withAddress, h.providers]
  factory := by rw [factory_withAddress, h.factory]

/-- A build of both keeps builders alike. -/
theorem build (h : BuildsLike b b') : BuildsLike b.withAddress b'.withAddress where
  found k hk := by rw [withAddress_withAddress, withAddress_withAddress, h.found k hk]
  headers := by rw [headers_withAddress, headers_withAddress, h.headers]
  providers := by rw [providers_withAddress, providers_withAddress, h.providers]
  factory := by rw [factory_withAddress, factory_withAddress, h.factory]

/-- So does a call of both, even one that sets or removes the address. -/
theorem call (h : BuildsLike b b') (hb : IsFit s b) (hb' : IsFit s b') (hc : c.IsFit s) :
    BuildsLike (b.call c).1 (b'.call c).1 := by
  obtain ⟨hheaders, hproviders, hfactory⟩ := added_call b c
  obtain ⟨hheaders', hproviders', hfactory'⟩ := added_call b' c
  refine ⟨fun k hk => ?_, ?_, ?_, ?_⟩
  -- What is found with the address in place was the same before, and the call changes it alike.
  · have hfound := h.found k hk
    rw [entry?_withAddress hb.store.named hk, entry?_withAddress hb'.store.named hk] at hfound
    rw [entry?_withAddress (hb.call hc).store.named hk,
      entry?_withAddress (hb'.call hc).store.named hk, entry?_call hb.store.named hc.name hk,
      entry?_call hb'.store.named hc.name hk, Call.found, Call.found]
    cases c.event? with
    | none => exact hfound
    | some e =>
      dsimp only
      split
      · rfl
      · exact hfound
  · rw [hheaders, hheaders', h.headers]
  · rw [hproviders, hproviders', h.providers]
  · rw [hfactory, hfactory', h.factory]

/-- Operations keep builders alike, also if one of them is built more often. -/
theorem after (h : BuildsLike b b') (hb : IsFit s b) (hb' : IsFit s b') {ops ops' : List Op}
    (hmore : WithBuilds ops ops') (hops : ∀ c, Op.call c ∈ ops → c.IsFit s) :
    BuildsLike (b.after ops) (b'.after ops') := by
  -- By induction on the sequence; a build on one side only sets the default address there.
  induction hmore generalizing b b' with
  | nil => exact h
  | more _ ih => exact ih h.more hb hb'.withAddress hops
  | both op _ ih =>
    have hrest : ∀ c, Op.call c ∈ _ → c.IsFit s := fun c hc => hops c (List.mem_cons_of_mem op hc)
    cases op with
    | build => exact ih h.build hb.withAddress hb'.withAddress hrest
    | call c =>
      have hc : c.IsFit s := hops c List.mem_cons_self
      exact ih (h.call hb hb' hc) (hb.call hc) (hb'.call hc) hrest

end BuildsLike

/-! ### Outcomes -/

/-- What derives proxy configurations reads the values under names only. -/
theorem derive_congr (f : Option Factory) {p q : Properties}
    (h : ∀ key : PropertyKey, p.get? (.text key.name) = q.get? (.text key.name)) :
    Factory.derive f p = Factory.derive f q := by
  simp only [Factory.derive, ProxyConfiguration.deriveLogged, ProxyConfiguration.derive_congr h]

/-- Builders that are alike build stores that hold the same under every name. -/
theorem BuildsLike.get?_build (h : BuildsLike b b') (s : State) {k : Value} (hk : k.IsName) :
    (b.withAddress.draft.build s.resolve).get? k =
      (b'.withAddress.draft.build s.resolve).get? k := by
  rw [Draft.get?_build, Draft.get?_build, h.found k hk]

/-- The entries of a built store. -/
theorem entries_build (d : Draft) (s : State) :
    (d.build s.resolve).entries = d.entries.map fun e => (e.1, (s.resolve e.2).freeze) := by
  rw [Draft.build, Properties.ofEntries, freezeEntries_eq_map, List.map_map]
  rfl

/-- The store that a fit builder builds. -/
theorem IsFit.build (h : IsFit s b) : IsStore (b.draft.build s.resolve).entries ∧
    AreFound (b.draft.build s.resolve).entries ∧
    ∀ e ∈ (b.draft.build s.resolve).entries, eqvItem e.2 e.2 = .ok true := by
  rw [entries_build]
  refine ⟨h.store.map fun v => (s.resolve v).freeze, ?_, ?_⟩ <;> intro e he <;>
    obtain ⟨f, hf, rfl⟩ := List.mem_map.1 he
  · exact h.found f hf
  · exact eqvItem_self _ (isSound_freeze _ (h.values f hf))

/-- Builders that are alike build equal destinations, or fail by the same error. -/
theorem BuildsLike.outcome (h : BuildsLike b b') (hb : IsFit s b) (hb' : IsFit s b') :
    SameOutcome s (b.outcome s) (b'.outcome s) := by
  -- The same is derived from both, since a derivation depends on what is found under names.
  have hderive : Factory.derive (factory? s (b.factory.elim .null .ref))
        (b.withAddress.draft.build s.resolve) =
      Factory.derive (factory? s (b'.factory.elim .null .ref))
        (b'.withAddress.draft.build s.resolve) := by
    rw [h.factory]
    exact derive_congr _ fun key => h.get?_build s (isName_of_isKey rfl)
  cases hresult : (Factory.derive (factory? s (b.factory.elim .null .ref))
      (b.withAddress.draft.build s.resolve)).result with
  | error e =>
    rw [Builder.outcome, Builder.outcome, build_eq_error.2 hresult,
      build_eq_error.2 (hderive ▸ hresult)]
    exact .failed e
  | ok proxy =>
    rw [Builder.outcome, Builder.outcome, build_eq_ok.2 ⟨proxy, hresult, rfl⟩,
      build_eq_ok.2 ⟨proxy, hderive ▸ hresult, rfl⟩]
    -- The stores have the same entries in perhaps another order; headers and providers are the
    -- same.
    obtain ⟨hstore, hfound, hself⟩ := hb.withAddress.build
    obtain ⟨hstore', hfound', _⟩ := hb'.withAddress.build
    have hheaders : b.withAddress.headers = b'.withAddress.headers := by
      rw [headers_withAddress, headers_withAddress, h.headers]
    refine .built (andThen_eq_true.2 ⟨?_, ?_⟩) hheaders ?_ rfl
    · exact eqv_of_entry?_eq hstore hstore' hfound hfound' (fun k hk => h.get?_build s hk) hself
    · rw [← hheaders, ← eqvItem_eq (.inl rfl)]
      refine eqvItem_self _ (areSound_iff.2 fun v hv => ?_)
      obtain ⟨header, hheader, rfl⟩ := List.mem_map.1 hv
      exact hb.withAddress.headers header hheader
    · rw [providers_withAddress, providers_withAddress, h.providers]

/-- A build without another rule for proxy configurations. -/
theorem outcome_eq_ok {proxy : Option ProxyConfiguration} (hrule : b.factory = none)
    (h : ProxyConfiguration.derive (b.withAddress.draft.build s.resolve) = .ok proxy) :
    b.outcome s = .ok ⟨b.withAddress.draft.build s.resolve, b.withAddress.headers,
      b.withAddress.providers, proxy⟩ := by
  rw [Builder.outcome, hrule]
  refine build_eq_ok.2 ⟨proxy, ?_, rfl⟩
  show (Factory.derive none _).result = _
  simp only [Factory.derive, ProxyConfiguration.deriveLogged, Logged.mapError, Option.bind_none, h]

/-- Builds are no calls, so the calls are the same. -/
theorem forall_call_of_withBuilds {ops ops' : List Op} (h : WithBuilds ops ops') {c : Call}
    (hc : Op.call c ∈ ops') : Op.call c ∈ ops := by
  induction h with
  | nil => exact hc
  | both op _ ih => simpa using (List.mem_cons.1 hc).imp_right ih
  | more _ ih => exact ih (by simpa using hc)

/-- More builds among the operations on a new builder do not change the outcome of the last build,
whether they succeed or fail: it gives the same error, or equal destinations with the same headers,
providers and proxy configuration. -/
theorem outcome_withBuilds (factory : Option Nat) {ops ops' : List Op} (h : WithBuilds ops ops')
    (s : State) (hops : ∀ c, Op.call c ∈ ops → c.IsFit s) :
    SameOutcome s ((({ factory := factory } : Builder).after ops).outcome s)
      ((({ factory := factory } : Builder).after ops').outcome s) := by
  have hnew := isFit_new s factory
  have hops' : ∀ c, Op.call c ∈ ops' → c.IsFit s := fun c hc =>
    hops c (forall_call_of_withBuilds h hc)
  exact ((BuildsLike.refl _).after hnew hnew h hops).outcome (hnew.after hops) (hnew.after hops')

/-- A builder that is built before its address is removed and again before a property is set, so
that the address has another place. -/
theorem outcome_withBuilds_removed :
    let address := Call.removeProperty (.typed .url)
    let proxy := Call.property (.plain (.text "ProxyHost")) (.text "proxy")
    let refused := Call.property (.plain (.seq .mutable [])) (.int 1)
    let list := Call.property (.plain (.text "A")) (.seq .mutable [.int 1])
    let header := Call.header (.text "X") (.text "1")
    let ops : List Op := [.call address, .call proxy, .call refused, .call list, .call header]
    let ops' : List Op := [.build, .call address, .call proxy, .build, .call refused, .call list,
      .call header]
    ∃ d d', (({} : Builder).after ops).outcome {} = .ok d ∧
      (({} : Builder).after ops').outcome {} = .ok d' ∧
      d.properties.names = [.text "ProxyHost", .text "A", .text "URL"] ∧
      d'.properties.names = [.text "ProxyHost", .text "URL", .text "A"] ∧
      SameOutcome {} (.ok d) (.ok d') := by
  intro address proxy refused list header ops ops'
  -- The second list has a build before the first call and one before the third.
  have hmore : WithBuilds ops ops' :=
    .more (.both _ (.both _ (.more (.both _ (.both _ (.both _ .nil))))))
  -- That the calls are fit is a finite check.
  have hfit : ∀ c, Op.call c ∈ ops → c.IsFit {} := by
    have hall : ∀ c ∈ [address, proxy, refused, list, header],
        (c.event?.all fun e => e.name.isKey && e.value?.all (·.isSound)) = true ∧
          c.addedHeaders.all (·.isSound) = true := by decide
    intro c hc
    obtain ⟨hevent, hheaders⟩ := hall c (by simpa [ops] using hc)
    refine ⟨fun e he => ?_, fun n v he => ?_, List.all_eq_true.1 hheaders⟩ <;> rw [he] at hevent
    · exact isName_of_isKey (Bool.and_eq_true_iff.1 hevent).1
    · exact (Bool.and_eq_true_iff.1 hevent).2
  have hsame := outcome_withBuilds none hmore {} hfit
  have hproxy : ∀ b ∈ [({} : Builder).after ops, ({} : Builder).after ops'],
      ProxyConfiguration.derive (b.withAddress.draft.build (State.resolve {})) =
        .ok (some ⟨⟨"http", "", "proxy", none, "", none, none⟩, none⟩) := by decide +kernel
  have hd := outcome_eq_ok rfl (hproxy _ List.mem_cons_self)
  have hd' :=
    outcome_eq_ok (by decide +kernel) (hproxy _ (List.mem_cons_of_mem _ List.mem_cons_self))
  rw [hd, hd'] at hsame
  exact ⟨_, _, hd, hd', by with_unfolding_all rfl, by with_unfolding_all rfl, hsame⟩

end Egress.Builder
