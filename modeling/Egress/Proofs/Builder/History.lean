import Egress.Proofs.Builder.Contents
import Egress.Proofs.Session.Placement

/-!
# Histories of builders

What a builder holds is told by the calls that were made, without the store in between. A property
has the value of the last call about its name, if that was an assignment; its place among the names
is that of the first assignment since the name was removed; headers and providers come in the order
of the calls. Calls that fail leave nothing behind, with one exception: headers are taken one by one
from what is gone through, so that those before an error stay.

## Key results

- `Builder.call`, `Builder.run`: what calls make of a builder, and which of them fail
- `Builder.valueAfter`, `Builder.founded`: the values and the order of the properties of a history
- `Builder.Holds.step`, `Builder.Holds.run`: a store holds what its history tells
- `Builder.build_of_run`: the destination that is built after any calls
- `Builder.built_besides_calls`: headers of a call that failed, and a value changed after its call
-/

namespace Egress.Builder

open Value

/-! ### Events -/

/-- Something that happens to the properties of a builder. -/
inductive Event where
  | assigned (name value : Value)
  | removed (name : Value)

namespace Event

/-- The name that it is about. -/
def name : Event → Value
  | assigned name _ => name
  | removed name => name

/-- The value that is assigned. -/
def value? : Event → Option Value
  | assigned _ value => some value
  | removed _ => none

/-- Whether it removes a name. -/
def removes (k : Value) : Event → Bool
  | assigned .. => false
  | removed name => sameKey k name

/-- What it makes of a store. -/
def apply (entries : List (Value × Value)) : Event → List (Value × Value)
  | assigned name value => putEntry entries name value
  | removed name => eraseEntry entries name

end Event

/-- The value of a name after some events: what was assigned by the last of them about the name. -/
def valueAfter (events : List Event) (k : Value) : Option Value :=
  (events.reverse.find? (sameKey ·.name k)).bind Event.value?

/-- The last event about a name assigns it a value. -/
def LastAssigned (events : List Event) (k v : Value) : Prop :=
  ∃ before name after, events = before ++ .assigned name v :: after ∧ sameKey name k = true ∧
    ∀ e ∈ after, sameKey e.name k = false

/-- Whether an assignment gives a name its place: the name is absent before it and is not removed
after it. -/
def founds (before after : List Event) (name : Value) : Bool :=
  (valueAfter before name).isNone && !after.any (·.removes name)

/-- The names that events leave assigned, in the order in which they were given their places, where
other events came before. -/
def founded (before : List Event) : List Event → List Value
  | [] => []
  | .assigned name value :: after =>
    let others := founded (before ++ [.assigned name value]) after
    if founds before after name then name :: others else others
  | .removed name :: after => founded (before ++ [.removed name]) after

/-- One more event settles the value of its name. -/
theorem valueAfter_concat (events : List Event) (e : Event) (k : Value) :
    valueAfter (events ++ [e]) k =
      if sameKey e.name k = true then e.value? else valueAfter events k := by
  rw [valueAfter, List.reverse_append, List.reverse_singleton, List.singleton_append,
    List.find?_cons]
  -- The newest event is looked at first.
  split
  · rename_i h
    rw [if_pos h]
    rfl
  · rename_i h
    rw [if_neg (by rw [h]; exact Bool.false_ne_true)]
    rfl

/-- The value of a name is that of its last assignment, after which nothing is about the name. -/
theorem valueAfter_eq_some_iff {events : List Event} {k v : Value} :
    valueAfter events k = some v ↔ LastAssigned events k v := by
  rw [valueAfter, Option.bind_eq_some_iff]
  -- The events are searched from the end, so the parts change their order.
  constructor
  · rintro ⟨e, hfind, hvalue⟩
    obtain ⟨hsame, after, before, heq, hlast⟩ := List.find?_eq_some_iff_append.1 hfind
    cases e with
    | removed name => cases hvalue
    | assigned name value =>
      cases hvalue
      refine ⟨before.reverse, name, after.reverse, ?_, hsame, fun e he => ?_⟩
      · rw [← List.reverse_reverse events, heq]
        simp
      · simpa using hlast e (List.mem_reverse.1 he)
  · rintro ⟨before, name, after, rfl, hsame, hlast⟩
    refine ⟨.assigned name v, List.find?_eq_some_iff_append.2 ⟨hsame, after.reverse,
      before.reverse, by simp, fun e he => ?_⟩, rfl⟩
    simpa using hlast e (List.mem_reverse.1 he)

/-- An assignment behind the others does not take a place away. -/
theorem founds_assigned (before after : List Event) (name value k : Value) :
    founds before (after ++ [.assigned name value]) k = founds before after k := by
  rw [founds, List.any_append, List.any_cons, List.any_nil, Event.removes, Bool.or_false,
    Bool.or_false, founds]

/-- A removal takes away the place of its name. -/
theorem founds_removed (before after : List Event) (name k : Value) :
    founds before (after ++ [.removed name]) k = (founds before after k && !sameKey k name) := by
  rw [founds, List.any_append, List.any_cons, List.any_nil, Event.removes, Bool.or_false,
    Bool.not_or, ← Bool.and_assoc, founds]

/-- One more assignment gives its name a place if it is absent. -/
theorem founded_assigned (before events : List Event) (name value : Value) :
    founded before (events ++ [.assigned name value]) = founded before events ++
      if (valueAfter (before ++ events) name).isNone then [name] else [] := by
  -- By induction on the events, with the first of them moved to those before.
  induction events generalizing before with
  | nil => simp [founded, founds]
  | cons e rest ih =>
    have hstep := ih (before ++ [e])
    rw [List.append_assoc, List.singleton_append] at hstep
    cases e with
    | removed n => simpa only [List.cons_append, founded] using hstep
    | assigned n w =>
      simp only [List.cons_append, founded, hstep, founds_assigned]
      split
      · rw [List.cons_append]
      · rfl

/-- One more removal takes its names out, which leaves the order of the others. -/
theorem founded_removed (before events : List Event) (name : Value) :
    founded before (events ++ [.removed name]) =
      (founded before events).filter (!sameKey · name) := by
  induction events generalizing before with
  | nil => rfl
  | cons e rest ih =>
    cases e with
    | removed n => simpa only [List.cons_append, founded] using ih _
    -- Whether the name was founded before does not depend on what comes after.
    | assigned n w =>
      simp only [List.cons_append, founded, ih, founds_removed]
      cases founds before rest n with
      | false => rfl
      | true => cases hsame : sameKey n name <;> simp [hsame]

/-! ### Stores -/

/-- A store holds what its history tells. -/
structure Holds (entries : List (Value × Value)) (events : List Event) : Prop where
  store : IsStore entries
  -- The value of each name.
  found : ∀ k, k.IsName → entry? entries k = valueAfter events k
  -- The names, in order.
  order : entries.map (·.1) = founded [] events

theorem Holds.nil : Holds [] [] := ⟨isStore_nil, fun _ _ => rfl, rfl⟩

/-- One more event keeps a store in step with its history. -/
theorem Holds.step {entries : List (Value × Value)} {events : List Event} (h : Holds entries events)
    {e : Event} (he : e.name.IsName) : Holds (e.apply entries) (events ++ [e]) := by
  -- An assignment replaces or appends, a removal erases; found, order and names are followed
  -- through both.
  cases e with
  | assigned name value =>
    have hname : name.IsName := he
    refine ⟨h.store.put hname, fun k hk => ?_, ?_⟩
    · rw [Event.apply, entry?_putEntry h.store.named hname hk, valueAfter_concat, h.found k hk]
      rfl
    · rw [Event.apply, map_fst_putEntry, founded_assigned, h.order, h.found name hname,
        List.nil_append]
      cases valueAfter events name <;> simp
  | removed name =>
    have hname : name.IsName := he
    refine ⟨h.store.erase, fun k hk => ?_, ?_⟩
    · rw [Event.apply, entry?_eraseEntry h.store.named hname hk, valueAfter_concat, h.found k hk]
      rfl
    · rw [Event.apply, map_fst_eraseEntry, founded_removed, h.order]

/-- Any events keep a store in step with its history. -/
theorem Holds.run {entries : List (Value × Value)} {events more : List Event}
    (h : Holds entries events) (hmore : ∀ e ∈ more, e.name.IsName) :
    Holds (more.foldl Event.apply entries) (events ++ more) := by
  induction more generalizing entries events with
  | nil => rwa [List.append_nil]
  | cons e rest ih =>
    obtain ⟨he, hrest⟩ := List.forall_mem_cons.1 hmore
    rw [List.foldl_cons, ← List.singleton_append, ← List.append_assoc]
    exact ih (h.step he) hrest

/-! ### Calls -/

/-- A call on a builder. -/
inductive Call where
  | property (name : PropertyName) (value : Value)
  | removeProperty (name : PropertyName)
  -- A header, or a name with a value.
  | header (h value : Value)
  -- The headers that something gives.
  | headers (given : Iteration)
  | fixed (h : FixedHeader) (value : Value)
  | instanceName (name : Value)
  -- Providers, and what tells whether something gives headers.
  | headerProviders (gives : Value → Bool) (providers : List Value)
  -- A read, which gives a value or fails.
  | get (name : PropertyName)

namespace Call

/-- What it does to the properties, if anything. -/
def event? : Call → Option Event
  | property name value => some (.assigned name.value value)
  | removeProperty name => some (.removed name.value)
  | instanceName name =>
    some (.assigned (.text PropertyKey.url.name) (.text (instanceAddress name.display)))
  | header .. | headers .. | fixed .. | headerProviders .. | get _ => none

/-- The headers that it adds. -/
def addedHeaders : Call → List Value
  | header (Value.header name value) _ => [Value.header name value]
  | header name value => [Value.header name value]
  | headers given => given.items
  | fixed h value => [Value.header (Value.text h.name) value]
  | property .. | removeProperty _ | instanceName _ | headerProviders .. | get _ => []

/-- The providers that it adds. -/
def addedProviders : Call → List Value
  | headerProviders _ providers => providers
  | property .. | removeProperty _ | header .. | headers .. | fixed .. | instanceName _
  | get _ => []

end Call

/-- The builder after a call that may be refused, and why it is refused if it is. -/
def unlessRefused (b : Builder) : Except BuilderError Builder → Builder × Option BuilderError
  | .ok b' => (b', none)
  | .error e => (b, some e)

/-- The builder after a call, and why the call fails if it does. -/
def call (b : Builder) : Call → Builder × Option BuilderError
  | .property name value => b.unlessRefused (b.put name value)
  | .removeProperty name => b.unlessRefused (b.erase name)
  | .header h value => b.unlessRefused (b.addHeader h value)
  | .headers given => (b.addHeaders given, given.failure?)
  | .fixed h value => b.unlessRefused (b.addFixed h value)
  | .instanceName name => (b.setInstance name, none)
  | .headerProviders gives providers => b.unlessRefused (b.addProviders gives providers)
  | .get _ => (b, none)

/-- A call that was made, and why it failed if it did. -/
structure Attempt where
  call : Call
  failure : Option BuilderError := none

namespace Attempt

/-- What it did to the properties, if anything. -/
def event? (a : Attempt) : Option Event := if a.failure.isNone then a.call.event? else none

/-- The headers that it left in the builder: all of them if it succeeded, and else those that came
before an error. -/
def headers (a : Attempt) : List Value :=
  match a.failure, a.call with
  | none, c => c.addedHeaders
  | some _, .headers given => given.items
  | some _, _ => []

/-- The providers that it left in the builder. -/
def providers (a : Attempt) : List Value := if a.failure.isNone then a.call.addedProviders else []

end Attempt

/-- The builder after calls, each of which may fail, and what became of them. -/
def run (b : Builder) : List Call → Builder × List Attempt
  | [] => (b, [])
  | c :: rest =>
    let (b', failure) := b.call c
    let (b'', attempts) := b'.run rest
    (b'', ⟨c, failure⟩ :: attempts)

/-- What a builder holds after some calls: the properties by the events of those that succeeded, and
the headers and providers in the order of the calls. -/
structure Follows (b : Builder) (attempts : List Attempt) (b' : Builder) : Prop where
  entries : b'.draft.entries =
    (attempts.filterMap Attempt.event?).foldl Event.apply b.draft.entries
  headers : b'.headers = b.headers ++ attempts.flatMap Attempt.headers
  providers : b'.providers = b.providers ++ attempts.flatMap Attempt.providers

theorem Follows.refl (b : Builder) : Follows b [] b :=
  ⟨rfl, (List.append_nil _).symm, (List.append_nil _).symm⟩

theorem Follows.trans {b b' b'' : Builder} {first second : List Attempt} (h : Follows b first b')
    (h' : Follows b' second b'') : Follows b (first ++ second) b'' where
  entries := by rw [h'.entries, h.entries, List.filterMap_append, List.foldl_append]
  headers := by rw [h'.headers, h.headers, List.flatMap_append, List.append_assoc]
  providers := by rw [h'.providers, h.providers, List.flatMap_append, List.append_assoc]

/-- A call that changes the properties only. -/
private theorem Follows.of_draft {b : Builder} {c : Call} {draft : Draft}
    (hentries : draft.entries = (c.event?.toList).foldl Event.apply b.draft.entries)
    (hheaders : c.addedHeaders = []) (hproviders : c.addedProviders = []) :
    Follows b [⟨c, none⟩] { b with draft := draft } where
  entries := by
    have hevent : Attempt.event? ⟨c, none⟩ = c.event? := rfl
    rw [hentries]
    cases h : c.event? <;> simp [hevent, h]
  headers := by simp [Attempt.headers, hheaders]
  providers := by simp [Attempt.providers, hproviders]

/-- A call that adds headers, some of which may stay although it fails. -/
private theorem Follows.of_headers {b : Builder} {a : Attempt} {more : List Value}
    (hevent : a.event? = none) (hheaders : a.headers = more) (hproviders : a.providers = []) :
    Follows b [a] { b with headers := b.headers ++ more } where
  entries := by simp [hevent]
  headers := by simp [hheaders]
  providers := by simp [hproviders]

/-- A call that is refused changes nothing. -/
private theorem Follows.of_refused {b : Builder} {c : Call} {e : BuilderError}
    (hheaders : (Attempt.mk c (some e)).headers = []) : Follows b [⟨c, some e⟩] b where
  entries := by simp [Attempt.event?]
  headers := by simp [hheaders]
  providers := by simp [Attempt.providers]

/-- A header that is accepted is added behind the others. -/
theorem addHeader_eq_ok {b b' : Builder} {name value : Value}
    (h : b.addHeader name value = .ok b') :
    b' = { b with headers := b.headers ++ (Call.header name value).addedHeaders } := by
  unfold addHeader at h
  split at h
  · cases h
    rfl
  · cases h
  · cases h
  -- A name with a value makes a header, and the name is no header itself.
  · rename_i hheader _ _
    cases h
    cases name <;> first | rfl | exact (hheader _ _ rfl).elim

/-- What a call makes of a builder, whether it succeeds or fails. -/
theorem follows_call (b : Builder) (c : Call) :
    Follows b [⟨c, (b.call c).2⟩] (b.call c).1 := by
  -- Calls that assign or remove change the draft, the calls about headers and providers append, and
  -- a refused call changes nothing.
  cases c with
  | property name value =>
    simp only [call, put]
    split
    · exact .of_refused rfl
    · exact .of_draft rfl rfl rfl
  | removeProperty name =>
    simp only [call, erase]
    split
    -- A builder without properties does not look at the name: there is nothing to remove.
    · rename_i hempty
      rw [List.isEmpty_iff] at hempty
      refine .of_draft ?_ rfl rfl
      rw [hempty]
      rfl
    · split
      · exact .of_refused rfl
      · exact .of_draft rfl rfl rfl
  | instanceName name => exact .of_draft rfl rfl rfl
  | header name value =>
    rw [call]
    cases h : b.addHeader name value with
    | error e => exact .of_refused rfl
    | ok b' =>
      rw [addHeader_eq_ok h]
      exact .of_headers rfl rfl rfl
  | fixed f value =>
    rw [call, addFixed]
    cases h : b.addHeader (.text f.name) value with
    | error e => exact .of_refused rfl
    | ok b' =>
      rw [addHeader_eq_ok h]
      exact .of_headers rfl rfl rfl
  | headers given =>
    refine .of_headers ?_ ?_ ?_ <;> cases given <;> rfl
  | headerProviders gives items =>
    simp only [call, addProviders]
    split
    · exact .of_refused rfl
    · exact ⟨rfl, by simp [unlessRefused, Attempt.headers, Call.addedHeaders], by
        simp [unlessRefused, Attempt.providers, Call.addedProviders]⟩
  | get name => exact .of_draft rfl rfl rfl

/-- What any calls make of a builder. -/
theorem follows_run (b : Builder) (calls : List Call) :
    Follows b (b.run calls).2 (b.run calls).1 := by
  induction calls generalizing b with
  | nil => exact .refl b
  | cons c rest ih => exact (follows_call b c).trans (ih _)

/-- What became of the calls is told call by call. -/
theorem calls_of_run (b : Builder) (calls : List Call) :
    (b.run calls).2.map Attempt.call = calls := by
  induction calls generalizing b with
  | nil => rfl
  | cons c rest ih => exact congrArg (c :: ·) (ih _)

/-! ### Builds -/

/-- What the default address makes of a history. -/
def addressEvents (events : List Event) : List Event :=
  if (valueAfter events (.text PropertyKey.url.name)).isSome then []
  else [.assigned (.text PropertyKey.url.name) (.text defaultAddress)]

/-- The default address is one more assignment, if the address is absent. -/
theorem Holds.withAddress {b : Builder} {events : List Event} (h : Holds b.draft.entries events) :
    Holds b.withAddress.draft.entries (events ++ addressEvents events) := by
  have haddress : (Value.text PropertyKey.url.name).IsName := isName_of_isKey rfl
  rw [withAddress_eq, addressEvents, h.found _ haddress]
  split
  · rwa [List.append_nil]
  · exact h.step (e := .assigned _ _) haddress

/-- The default address is found under its name if that was absent; nothing else changes. -/
theorem valueAfter_addressEvents {b : Builder} {events : List Event}
    (h : Holds b.draft.entries events) {k : Value} (hk : k.IsName) :
    valueAfter (events ++ addressEvents events) k = (valueAfter events k).or
      (if sameKey (.text PropertyKey.url.name) k = true then some (.text defaultAddress)
        else none) := by
  rw [← h.withAddress.found k hk, entry?_withAddress h.store.named hk, h.found k hk]

/-- A new builder may be called in any way and then build a destination. A property of the
destination has the frozen value that was assigned by the last of the successful calls about its
name, as that value is at the build; it is absent if there is none or that call removed it, except
that the address is set by default. The names come in the order in which they were given their
places, an address by default last. The headers and providers are those of the successful calls, in
order, and between them the headers that calls gave before an error. -/
theorem build_of_run (factory : Option Nat) (calls : List Call)
    (hnames : ∀ c ∈ calls, ∀ e, c.event? = some e → e.name.IsName) (s : Session.State) {ε : Type}
    (derive : Properties → Logged ε (Option ProxyConfiguration)) (d : Destination)
    (hbuild : ((run { factory := factory } calls).1.withAddress.build s.resolve derive).result =
      .ok d) :
    let attempts := (run { factory := factory } calls).2
    let events := attempts.filterMap Attempt.event?
    let address := Value.text PropertyKey.url.name
    attempts.map Attempt.call = calls ∧
    (∀ k v, k.IsName → LastAssigned events k v →
      d.properties.get? k = some (s.resolve v).freeze) ∧
    (∀ k, k.IsName → (∀ v, ¬LastAssigned events k v) →
      d.properties.get? k = if sameKey address k then some (.text defaultAddress) else none) ∧
    d.properties.names =
      founded [] events ++ (if (valueAfter events address).isSome then [] else [address]) ∧
    d.headers = attempts.flatMap Attempt.headers ∧
    d.providers = attempts.flatMap Attempt.providers := by
  intro attempts events address
  have hfollows := follows_run { factory := factory } calls
  have hcalls := calls_of_run { factory := factory } calls
  -- The names of the events are those of the calls.
  have hevents : ∀ e ∈ events, e.name.IsName := by
    intro e he
    obtain ⟨a, ha, hevent⟩ := List.mem_filterMap.1 he
    have hmem : a.call ∈ calls := hcalls ▸ List.mem_map_of_mem ha
    rw [Attempt.event?] at hevent
    split at hevent
    · exact hnames _ hmem e hevent
    · cases hevent
  have hholds : Holds (run { factory := factory } calls).1.draft.entries events := by
    rw [hfollows.entries]
    exact Holds.nil.run hevents
  -- What is found in the destination is what the history says, with the default address behind it.
  have hget : ∀ k, k.IsName → d.properties.get? k = ((valueAfter events k).or
      (if sameKey address k = true then some (.text defaultAddress) else none)).map
        fun v => (s.resolve v).freeze := by
    intro k hk
    obtain ⟨proxy, _, rfl⟩ := build_eq_ok.1 hbuild
    rw [Draft.get?_build, hholds.withAddress.found k hk, valueAfter_addressEvents hholds hk]
  obtain ⟨proxy, _, rfl⟩ := build_eq_ok.1 hbuild
  refine ⟨hcalls, fun k v hk hlast => ?_, fun k hk hno => ?_, ?_, ?_, ?_⟩
  · rw [hget k hk, valueAfter_eq_some_iff.2 hlast]
    rfl
  · have hnone : valueAfter events k = none := by
      refine Option.eq_none_iff_forall_ne_some.2 fun v hv => hno v (valueAfter_eq_some_iff.1 hv)
    rw [hget k hk, hnone, Option.none_or]
    split
    · rw [Option.map_some, Session.resolve_of_isPlain s rfl]
      rfl
    · rfl
  · rw [Draft.names_build, hholds.withAddress.order, addressEvents]
    split
    · rw [List.append_nil, List.append_nil]
    · rename_i hnone
      rw [founded_assigned, List.nil_append, if_pos (by simpa using hnone)]
  · rw [headers_withAddress, hfollows.headers]
    rfl
  · rw [providers_withAddress, hfollows.providers]
    rfl

/-- A history with a refused name, a removal, a name that a typed key stands for, and headers that
end with an error. -/
theorem build_of_run_removed :
    let calls : List Call := [
      .property (.plain (.text "A")) (.int 1),
      .property (.plain (.seq .mutable [])) (.int 2),
      .property (.plain (.text "B")) (.int 3),
      .removeProperty (.plain (.text "A")),
      .property (.typed ⟨"A", .any⟩) (.seq .mutable [.int 4]),
      .header (.text "X") .null,
      .headers (.broken [.header (.text "A") (.text "1")] "no colon"),
      .fixed .tenantId (.text "T")]
    let derive : Properties → Logged Unit (Option ProxyConfiguration) := fun _ => .quiet (.ok none)
    ∃ d, ((run {} calls).1.withAddress.build (Session.State.resolve {}) derive).result = .ok d ∧
      d.properties.get? (.text "A") = some (.seq .frozen [.int 4]) ∧
      d.properties.names = [.text "B", .text "A", .text "URL"] ∧
      d.headers = [.header (.text "A") (.text "1"), .header (.text "X-Tenant-Id") (.text "T")] := by
  intro calls derive
  have hbuild : ((run {} calls).1.withAddress.build (Session.State.resolve {}) derive).result =
      .ok ⟨_, _, _, none⟩ := build_eq_ok.2 ⟨none, rfl, rfl⟩
  have hnames : ∀ c ∈ calls, ∀ e, c.event? = some e → e.name.IsName := by
    have hall : ∀ c ∈ calls, c.event?.all (fun e => e.name.isKey) = true := by decide
    intro c hc e he
    have hkey := hall c hc
    rw [he] at hkey
    exact isName_of_isKey hkey
  obtain ⟨_, hfound, _, horder, hheaders, _⟩ := build_of_run none calls hnames {} derive _ hbuild
  refine ⟨_, hbuild, ?_, ?_, ?_⟩
  · refine hfound _ (.seq .mutable [.int 4]) (isName_of_isKey rfl) ?_
    exact valueAfter_eq_some_iff.1 (by with_unfolding_all rfl)
  -- The order of the places is a closed computation over the history.
  · rw [horder]
    with_unfolding_all rfl
  · rw [hheaders]
    with_unfolding_all rfl

/-- A destination with a header that no successful call has given, and with a value that is not the
one that was assigned: the list under `K` got another element after it was assigned. -/
theorem built_besides_calls :
    let header : Value := .header (.text "A") (.text "1")
    let calls : List Call := [.property (.plain (.text "K")) (.ref 0),
      .headers (.broken [header] "no colon")]
    let atCall : Session.State := { objects := [.container (.seq .mutable [.int 1])] }
    let atBuild : Session.State := { objects := [.container (.seq .mutable [.int 1, .int 2])] }
    let derive : Properties → Logged Unit (Option ProxyConfiguration) := fun _ => .quiet (.ok none)
    let attempts := (run {} calls).2
    ∃ d, ((run {} calls).1.withAddress.build atBuild.resolve derive).result = .ok d ∧
      (attempts.filter (·.failure.isNone)).map Attempt.call =
        [.property (.plain (.text "K")) (.ref 0)] ∧
      (attempts.filter (·.failure.isNone)).flatMap Attempt.headers = [] ∧ d.headers = [header] ∧
      (atCall.resolve (.ref 0)).freeze = .seq .frozen [.int 1] ∧
      d.properties.get? (.text "K") = some (.seq .frozen [.int 1, .int 2]) := by
  intro header calls atCall atBuild derive attempts
  -- The second call fails, but the header before the error stays.
  have hbuild : ((run {} calls).1.withAddress.build atBuild.resolve derive).result =
      .ok ⟨_, _, _, none⟩ := build_eq_ok.2 ⟨none, rfl, rfl⟩
  exact ⟨_, hbuild, rfl, rfl, rfl, by with_unfolding_all rfl, by with_unfolding_all rfl⟩

end Egress.Builder
