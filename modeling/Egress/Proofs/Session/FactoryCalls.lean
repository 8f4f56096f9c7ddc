import Egress.Proofs.Session.Askings

/-!
# The calls of a factory

A factory is called once for each destination that is created with it, and the destination keeps the
answer: it refers to the store that the factory was asked about and to the proxy configuration that
the factory derived, whatever is done later. Attempts that fail after the factory was asked count as
well, and so do the calls that the session makes itself.

## Key results

- `State.Created`: what becomes of an attempt that succeeds, which all acts keep
- `calls_of_doneAll`: the calls that a factory has received
- `not_calls_eq_attempts`: attempts that ask no factory, and calls without an attempt
-/

namespace Egress.Session

variable {s t : State}

/-! ### What becomes of an attempt -/

/-- An attempt has created a destination, whose store and proxy configuration are at given places.
The store is the one that the factory was asked about, and the proxy configuration is what the
factory derives from it. -/
structure State.Created (s : State) (a : Attempt) (v : Value) (d : Destination)
    (store proxy : Value) : Prop where
  object : s.object? v = some (.destination d store proxy)
  -- The places hold the store and the proxy configuration of the destination.
  linked : s.Linked d store proxy
  asked : a.store = some d.properties
  -- A store that was given is at its place still.
  given : ∀ r, a.given = some r → r = store
  derived : ∀ id, a.factory = some id → ∃ f, s.object? (.ref id) = some (.factory f) ∧
    (Factory.derive (some f) d.properties).result = .ok d.proxy

/-- A factory stays where it is and derives in the same way. -/
theorem derive_of_precedes (hst : s.Precedes t) {v : Value} {f : Factory}
    (h : s.object? v = some (.factory f)) :
    ∃ g, t.object? v = some (.factory g) ∧ Factory.derive (some g) = Factory.derive (some f) := by
  obtain ⟨o, ho, hb⟩ := hst.becomes h
  cases hb with
  | same => exact ⟨f, ho, rfl⟩
  | factory _ g _ hfixed =>
    refine ⟨g, ho, funext fun p => ?_⟩
    rw [Factory.derive, Factory.derive, Option.bind_some, Option.bind_some, hfixed]

/-- What was created stays as it is. -/
theorem State.Created.later {a : Attempt} {v store proxy : Value} {d : Destination}
    (h : s.Created a v d store proxy) (hst : s.Precedes t) : t.Created a v d store proxy where
  object := hst.object?_eq h.object rfl
  linked := hst.linked_of_linked h.linked
  asked := h.asked
  given := h.given
  derived id hid := by
    obtain ⟨f, hf, hproxy⟩ := h.derived id hid
    obtain ⟨g, hg, hderive⟩ := derive_of_precedes hst hf
    exact ⟨g, hg, by rw [hderive, hproxy]⟩

/-- The factory of an attempt is there, and it is what the destination was derived with. -/
theorem derived_of_factoryPlace? {factory : Value} {d : Destination}
    (h : (Factory.derive (factory? s factory) d.properties).result = .ok d.proxy)
    (hst : s.Precedes t) (id : Nat) (hid : s.factoryPlace? factory = some id) :
    ∃ f, t.object? (.ref id) = some (.factory f) ∧
      (Factory.derive (some f) d.properties).result = .ok d.proxy := by
  obtain ⟨rfl, f, hf⟩ := factoryPlace?_eq_some.1 hid
  obtain ⟨g, hg, hderive⟩ := derive_of_precedes hst hf
  refine ⟨g, hg, ?_⟩
  rw [factory?, hf] at h
  rw [hderive, h]

/-- A construction that answers something was ready, and created the destination. -/
theorem created_of_create {args : List Value} {v : Value}
    (h : (create .destination args).run.run s = (.ok v, t)) :
    (Attempt.direct s args).isReady ∧
      ∃ d store proxy, t.Created (Attempt.direct s args) v d store proxy := by
  have hst : s.Precedes t := (Above.create args fun _ => rfl).precedes h
  obtain ⟨headers, hheaders, hheadersOk⟩ := headersGiven_run s (args.getD 1 .null)
  obtain ⟨providers, hproviders, hprovidersOk⟩ := providersGiven_run s args[2]?
  -- The run is the two reads, which gave values, and the making of the destination.
  obtain ⟨_, _, hget, h⟩ := bind_ok h
  cases hget
  obtain ⟨_, _, hgiven, h⟩ := bind_ok h
  cases hheaders.symm.trans hgiven
  obtain ⟨_, _, hgiven', h⟩ := bind_ok h
  cases hproviders.symm.trans hgiven'
  obtain ⟨d, c, hstore, _, hderive, hd, hl⟩ := makeDestination_ok h
  refine ⟨?_, d, _, c, hd, hl, ?_, ?_, derived_of_factoryPlace? hderive hst⟩
  · rw [Attempt.direct, ← hheadersOk, ← hprovidersOk]
    rfl
  · rw [Attempt.direct, State.store?, hstore]
  · rintro r ⟨⟩
    rfl

/-- A build that answers something created the destination. -/
theorem created_of_callBuilder {i : Nat} {b : Builder} {args : List Value} {v : Value}
    (hb : s.object? (.ref i) = some (.builder b))
    (h : (callBuilder (.ref i) b .build args).run.run s = (.ok (.value v), t)) :
    ∃ d store proxy, t.Created (Attempt.build s b) v d store proxy := by
  have hst : s.Precedes t := (Above.callBuilder hb args fun _ => rfl).precedes h
  obtain ⟨d, q, c, houtcome, hd, hl⟩ := built_of_ok hb h
  obtain ⟨proxy, hderive, rfl⟩ := Builder.build_eq_ok.1 houtcome
  exact ⟨_, q, c, hd, hl, rfl, nofun, derived_of_factoryPlace? hderive hst⟩

/-- An attempt that answers something has created a destination. -/
theorem created_of_answer {command : Step × Option String} {a : Attempt} {v : Value}
    (ha : s.attempt? (.step command) = some a) (hv : (step s command).answer = .value v) :
    a.isReady ∧ ∃ d store proxy, (step s command).state.Created a v d store proxy := by
  obtain ⟨x, name⟩ := command
  obtain ⟨u, hrun, hobjects⟩ := perform_of_answer hv
  have hu : u.Precedes (step s (x, name)).state := .of_objects hobjects
  -- An attempt is a construction or a build; either has its own account of what it creates.
  unfold State.attempt? at ha
  split at ha
  · rename_i args _ heq
    cases heq
    obtain ⟨⟨vs, t⟩, hargs, rfl⟩ := Option.map_eq_some_iff.1 ha
    have hcreate := create_of_perform (evaluated?_eq_some.1 hargs) hrun
    obtain ⟨hready, d, store, proxy, hcreated⟩ := created_of_create hcreate
    exact ⟨hready, d, store, proxy, hcreated.later hu⟩
  · rename_i method on args _ heq
    cases heq
    obtain ⟨⟨vs, t⟩, hargs, ha⟩ := Option.bind_eq_some_iff.1 ha
    have hvs := evaluated?_eq_some.1 hargs
    obtain ⟨self, rest, rfl⟩ := hvs.cons
    rw [call_of_perform hvs] at hrun
    obtain ⟨i, b, rfl, rfl, hb, rfl⟩ := buildAttempt?_eq_some ha
    rw [call_builder hb] at hrun
    obtain ⟨d, store, proxy, hcreated⟩ := created_of_callBuilder hb hrun
    exact ⟨rfl, d, store, proxy, hcreated.later hu⟩
  · cases ha

/-- A destination answers the proxy configuration that it was created with. -/
theorem answer_proxyConfiguration {v q c : Value} {d : Destination}
    (h : s.object? v = some (.destination d q c)) (name : Option String) :
    (step s (.call .proxyConfiguration (.value v) [], name)).answer = .value c := by
  have hrun : (Step.call .proxyConfiguration (.value v) []).perform.run.run
      { s with records := [] } = (.ok (.value c), { s with records := [] }) :=
    (call_destination (s := { s with records := [] }) h .proxyConfiguration []).trans rfl
  exact (step_of_ok name hrun).1

/-- The calls that a factory of a session has received are those of the attempts to create a
destination with it that come to the derivation, and those that the session makes itself. Each act
tells the factory the store of the destination that it attempts to create, or what it calls the
factory with, and all other acts leave it alone. An attempt that answers a destination has created
it with the very store that the factory was asked about and with the proxy configuration that the
factory derived, which the destination answers ever after. -/
theorem calls_of_doneAll {acts : List Act} {id : Nat} {f : Factory}
    (hf : (State.doneAll {} acts).object? (.ref id) = some (.factory f)) :
    f.calls = (State.along State.attempt? {} acts).countP (·.asks id) +
        (State.along State.ownCall? {} acts).countP (·.factory == id) ∧
    (∀ before act after, acts = before ++ act :: after →
      let s := State.doneAll {} before
      (∀ a, s.attempt? act = some a →
        (s.done act).asked id = s.asked id ++ if a.asks id then [a.store] else []) ∧
      (∀ c, s.ownCall? act = some c →
        (s.done act).asked id = s.asked id ++ if c.factory = id then [c.store] else []) ∧
      (s.attempt? act = none → s.ownCall? act = none → (s.done act).asked id = s.asked id)) ∧
    ∀ before command after a v, acts = before ++ .step command :: after →
      let s := State.doneAll {} before
      s.attempt? (.step command) = some a → (step s command).answer = .value v →
      a.isReady ∧ ∃ d store proxy, ∀ more,
        let t := (s.done (.step command)).doneAll more
        t.Created a v d store proxy ∧
        ∀ name, (step t (.call .proxyConfiguration (.value v) [], name)).answer =
          .value proxy := by
  -- The count is over the whole run, the three cases are about one act, and the last part is about
  -- a destination and everything that is done later.
  refine ⟨?_, fun before act _ _ => ⟨fun a ha => ?_, fun c hc => ?_, fun hattempt hown => ?_⟩,
    fun before command _ a v _ ha hv => ?_⟩
  · have hlength := length_asked_doneAll {} acts id
    rw [asked_of_object? hf] at hlength
    exact hlength.trans (Nat.zero_add _)
  · rw [asked_done, told_of_attempt? ha]
  · rw [asked_done, told_of_ownCall? hc]
  · rw [asked_done, State.told, hattempt, hown]
    exact List.append_nil _
  · obtain ⟨hready, d, store, proxy, hcreated⟩ := created_of_answer ha hv
    refine ⟨hready, d, store, proxy, fun more => ?_⟩
    have hlater := hcreated.later (precedes_doneAll _ more)
    exact ⟨hlater, fun name => answer_proxyConfiguration hlater.object name⟩

/-- A factory is asked by a build that succeeds, by a construction that fails for the lack of a
store and by the session, but not by a report nor by a construction whose headers are a number. The
destination answers the proxy that the factory gave. -/
theorem calls_of_doneAll_shared :
    let f := Expr.var "f"
    let empty := Expr.seq .frozen []
    let before : List Act := [.step (.create .factory [.value (.text "http://p")], some "f"),
      .step (.create .builder [f], some "b")]
    let build : Step × Option String := (.call .build (.var "b") [], some "d")
    let after : List Act := [.report (.var "d") 80,
      .step (.create .destination [.value (.int 5), empty, empty, f], none),
      .step (.create .destination [.value (.int 5), .value (.int 5), empty, f], none),
      .step (.call .proxyConfiguration f [.value (.int 5)], none)]
    let s := State.doneAll {} (before ++ .step build :: after)
    ∃ g, s.object? (.ref 0) = some (.factory g) ∧ g.calls = 2 + 1 ∧
      ∃ a d store proxy, a.factory = some 0 ∧ s.Created a (.ref 4) d store proxy ∧
        ∀ name, (step s (.call .proxyConfiguration (.value (.ref 4)) [], name)).answer =
          .value proxy := by
  intro f empty before build after s
  have hfactory : (factory? s (.ref 0)).isSome = true := by decide +kernel
  obtain ⟨g, hg⟩ := Option.isSome_iff_exists.1 hfactory
  have hobject := object?_of_factory? hg
  obtain ⟨hcalls, _, hcreated⟩ := calls_of_doneAll hobject
  -- The build and the construction without a store are counted, the one with a number for headers
  -- is not.
  have hattempts : (State.along State.attempt? {} (before ++ .step build :: after)).countP
      (·.asks 0) = 2 := by decide +kernel
  have hown : (State.along State.ownCall? {} (before ++ .step build :: after)).countP
      (·.factory == 0) = 1 := by decide +kernel
  rw [hattempts, hown] at hcalls
  have hfirst : ((State.attempt? (State.doneAll {} before) (.step build)).bind
      Attempt.factory) = some 0 := by decide +kernel
  obtain ⟨a, ha, ha0⟩ := Option.bind_eq_some_iff.1 hfirst
  have hanswer : (step (State.doneAll {} before) build).answer = .value (.ref 4) := by rfl
  obtain ⟨_, d, store, proxy, hlater⟩ := hcreated before build after a _ rfl ha hanswer
  have hs : s = ((State.doneAll {} before).done (.step build)).doneAll after := by
    rw [← doneAll_cons, ← doneAll_append]
  refine ⟨g, hobject, hcalls, a, d, store, proxy, ha0, ?_⟩
  rw [hs]
  exact hlater after

/-- A construction whose headers are a number is an attempt that does not ask the factory, and a
call of the session asks it without an attempt. -/
theorem not_calls_eq_attempts :
    let f := Expr.var "f"
    let before : List Act := [.step (.create .factory [], some "f"),
      .step (.create .properties [.value .null], some "p")]
    let attempt : Act :=
      .step (.create .destination [.var "p", .value (.int 5), .seq .mutable [], f], some "d")
    let own : Act := .step (.call .proxyConfiguration f [.var "p"], none)
    (∃ g, (State.doneAll {} (before ++ [attempt])).object? (.ref 0) = some (.factory g) ∧
      g.calls = 0 ∧
      (State.along State.attempt? {} (before ++ [attempt])).countP (·.factory == some 0) = 1) ∧
    ∃ g, (State.doneAll {} (before ++ [own])).object? (.ref 0) = some (.factory g) ∧
      g.calls = 1 ∧
      (State.along State.attempt? {} (before ++ [own])).countP (·.factory == some 0) = 0 := by
  intro f before attempt own
  -- The numbers of askings and attempts are computed from both runs.
  exact ⟨⟨⟨none, []⟩, rfl, rfl, by decide +kernel⟩, ⟨none, [some (.ofEntries [])]⟩, rfl, rfl,
    by decide +kernel⟩

end Egress.Session
