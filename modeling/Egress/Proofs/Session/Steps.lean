import Egress.Proofs.Session.Action

/-!
# What steps keep

Each action of a session leads to later states only. The lemmas follow the definitions, one for each
function; `precedes_step` says it of a step and `precedes_after` of a run. Factories are asked where
a destination is created and where the session itself asks one, and nowhere else: each other action
leads to states in which the factories are the same (`precedes_perform`).
-/

namespace Egress.Session

variable {asking : Bool} {s t : State}

/-- What is taken for a factory is an object of the state. -/
theorem object?_of_factory? {v : Value} {f : Factory} (h : factory? s v = some f) :
    s.object? v = some (.factory f) := by
  unfold factory? at h
  split at h
  · rename_i ho
    rw [ho, Option.some.inj h]
  · cases h

/-- What is taken for a store of properties is an object of the state. -/
theorem object?_of_store? {v : Value} {p : Properties} (h : s.store? v = some p) :
    s.object? v = some (.properties p) := by
  unfold State.store? at h
  split at h
  · rename_i ho
    rw [ho, Option.some.inj h]
  · cases h

/-! ## Containers and expressions -/

namespace Above

/-- A container, which becomes an object if it can be changed. -/
theorem container (access : Access) (v : Value) :
    Above s (if access = .mutable then Session.add (.container v) else return v) asking :=
  (sequential s).container access v

/-- Placing a value adds containers only. -/
theorem place (s : State) (v : Value) : Above s (Session.place v) asking := (sequential s).place v

/-- Looking up a variable changes nothing, whether it is there or not. -/
theorem lookUp (name : String) : Above s (lookUp name) asking := by
  refine get_bind fun t _ => ?_
  split
  · exact pure _
  · exact throw _

mutual

/-- Evaluating an expression adds the objects that it makes, after those of its parts. -/
theorem eval (s : State) : (e : Expr) → Above s e.eval asking
  -- By recursion on the expression, whose parts are evaluated first.
  | .value v => pure v
  | .nan => bind (modify fun _ => rfl) fun _ => get_bind fun _ _ => pure _
  | .var name => lookUp name
  | .byteArray data => add rfl
  | .seq access items => by
    unfold Expr.eval
    exact bind (evalAll s items) fun _ => container _ _
  | .set access items => by
    unfold Expr.eval
    exact bind (evalAll s items) fun _ => get_bind fun _ _ => bind (orFail _ _) fun _ =>
      container _ _
  | .map entries => by
    unfold Expr.eval
    exact bind (evalEntries s entries) fun _ => get_bind fun _ _ => bind (orFail _ _) fun _ =>
      add rfl
  | .header name content => by
    unfold Expr.eval
    exact bind (eval s name) fun _ => bind (eval s content) fun _ => pure _
  | .url text => bind (orFail _ _) fun _ => pure _
  | .key k => add rfl
  | .conversion f => add rfl
  | .provider headers rest => by
    unfold Expr.eval
    exact bind (evalEntries s headers) fun _ => get_bind fun _ _ => add rfl
  | .settings timeout verifyTls followRedirects extraHeaders => by
    unfold Expr.eval
    refine bind (evalOr s _ timeout) fun _ => bind (evalOr s _ verifyTls) fun _ =>
      bind (evalOr s _ followRedirects) fun _ => bind (evalOr s _ extraHeaders) fun _ =>
      bind (resolve _) fun _ => add rfl

/-- An expression that may be missing is evaluated, or its default is taken. -/
theorem evalOr (s : State) (v : Value) : (e : Option Expr) → Above s (Expr.evalOr v e) asking
  | none => pure v
  | some e => by
    unfold Expr.evalOr
    exact eval s e

/-- Expressions are evaluated one after the other. -/
theorem evalAll (s : State) : (es : List Expr) → Above s (Expr.evalAll es) asking
  | [] => pure _
  | e :: rest => by
    unfold Expr.evalAll
    exact bind (eval s e) fun _ => bind (evalAll s rest) fun _ => pure _

/-- Entries are evaluated one after the other, the key before the value. -/
theorem evalEntries (s : State) : (es : List (Expr × Expr)) → Above s (Expr.evalEntries es) asking
  | [] => pure _
  | (k, e) :: rest => by
    unfold Expr.evalEntries
    exact bind (eval s k) fun _ => bind (eval s e) fun _ =>
      bind (evalEntries s rest) fun _ => pure _

end

/-! ## Properties -/

theorem propertyName (v : Value) : Above s (propertyName v) asking := get_bind fun _ _ => pure _

theorem checkName (name : PropertyName) : Above s (checkName name) asking := discard (orFail _ _)

/-- Reading an entry adds what it hands out. -/
theorem readEntry (entries : List (Value × Value)) (key conversion : Value) :
    Above s (readEntry entries key conversion) asking :=
  (sequential s).readEntry (of_objects fun _ => rfl) orFail entries key conversion

/-- Looking for an entry changes nothing. -/
theorem hasEntry (entries : List (Value × Value)) (key : Value) :
    Above s (hasEntry entries key) asking :=
  bind (propertyName key) fun name => bind (checkName name) fun _ => pure _

theorem elementsOf (v : Value) : Above s (elementsOf v) asking := get_bind fun _ _ => pure _

/-- Whether there are elements or not, the state stays. -/
theorem requireElements (v : Value) : Above s (requireElements v) asking := by
  refine bind (elementsOf v) fun items => ?_
  split
  · exact pure _
  · exact get_bind fun _ _ => throw _

/-- Whether there is a length or not, the state stays. -/
theorem lengthOf (v : Value) : Above s (lengthOf v) asking := by
  refine bind (elementsOf v) fun items => ?_
  split
  · exact pure _
  · exact get_bind fun _ _ => throw _

end Above

/-! ## Destinations -/

/-- The state after a factory was asked about a store. -/
def State.noted (s : State) (v : Value) (store : Option Properties) : State :=
  match factory? s v with
  | some f => stateAfter (Session.update v (.factory { f with asked := f.asked ++ [store] })) s
  | none => s

/-- Asking a factory notes the store that it was asked about, and gives what the factory derives. -/
theorem askFactory_run (s : State) (v : Value) (store : Option Properties) :
    (askFactory v store).run.run s =
      (.ok (Factory.derive (factory? s v)), s.noted v store) := by
  rw [askFactory, bind_eq_of_ok (get_eq s), State.noted]
  cases factory? s v with
  | none => rfl
  | some f => cases v <;> rfl

/-- A factory that is asked notes it in its own place. -/
theorem precedes_noted (s : State) (v : Value) (store : Option Properties) :
    s.Precedes (s.noted v store) := by
  unfold State.noted
  split
  · rename_i f hf
    have hb : (Object.factory f).Becomes true (.factory { f with asked := f.asked ++ [store] }) :=
      .factory _ _ rfl rfl
    exact Above.update (object?_of_factory? hf) rfl hb s (.refl s)
  · exact .refl s

namespace Above

/-- Asking a factory only adds to what it was asked. -/
theorem askFactory (v : Value) (store : Option Properties) : Above s (askFactory v store) := by
  intro t ht
  rw [stateAfter, askFactory_run]
  exact ht.trans (precedes_noted t v store)

/-- A proxy configuration is added after its credentials. -/
theorem addProxy (c : Option ProxyConfiguration) : Above s (addProxy c) asking :=
  (sequential s).addProxy c

end Above

/-- An action ends with a new destination, which refers to its own objects. -/
def Makes (d : Destination) (x : Action Value) (s : State) : Prop :=
  ∃ u p c, s.Precedes u false ∧ u.Linked d p c ∧
    x.run.run s = (.ok (u.add (.destination d p c)).1, (u.add (.destination d p c)).2)

namespace Makes

variable {d : Destination}

/-- A destination that is linked to its parts is made by adding it. -/
theorem add {p c : Value} (h : s.Linked d p c) : Makes d (add (.destination d p c)) s :=
  ⟨s, p, c, .refl s, h, rfl⟩

/-- An object that is new in itself and made before. -/
theorem add_bind {o : Object} {f : Value → Action Value} (ho : o.isFresh)
    (h : Makes d (f (s.add o).1) (s.add o).2) : Makes d (Session.add o >>= f) s := by
  obtain ⟨u, p, c, hu, hl, hrun⟩ := h
  refine ⟨u, p, c, .trans (s.precedes_add_other ho) hu, hl, ?_⟩
  rw [← hrun]
  rfl

/-- A destination follows the objects of its proxy configuration. -/
theorem withProxy {v : Value} (hv : s.object? v = some (.properties d.properties)) :
    Makes d (do Session.add (.destination d v (← addProxy d.proxy))) s := by
  -- The object of the configuration comes after that of the credentials, if there are any, and
  -- before the destination.
  cases hp : d.proxy with
  | none => exact add ⟨hv, .inl ⟨rfl, hp⟩⟩
  | some c =>
    have withCredentials (t : State) (k : Value)
        (ht : t.object? v = some (.properties d.properties)) :
        Makes d (Session.add (.proxy c k) >>= fun x => Session.add (.destination d v x)) t := by
      have hadd : t.Precedes (t.add (.proxy c k)).2 := t.precedes_add_other rfl
      exact add_bind rfl (add ⟨hadd.object?_eq ht rfl, .inr ⟨c, k, t.object?_add_self _, hp⟩⟩)
    obtain ⟨uri, credentials⟩ := c
    cases credentials with
    | none => exact withCredentials s .null hv
    | some k =>
      have hadd : s.Precedes (s.add (.credentials k)).2 := s.precedes_add_other rfl
      rw [Session.addProxy, bind_assoc]
      exact add_bind rfl (withCredentials _ _ (hadd.object?_eq hv rfl))

/-- The objects of a destination are made before the destination, which is linked to them. -/
theorem addDestination {properties : Option Value}
    (h : ∀ v, properties = some v → s.object? v = some (.properties d.properties)) :
    Makes d (addDestination d properties) s := by
  cases properties with
  | some v => exact withProxy (h v rfl)
  | none => exact add_bind rfl (withProxy (s.object?_add_self _))

/-- The new destination is there at the end, linked to its own objects. -/
theorem made {x : Action Value} (h : Makes d x s) :
    ∃ v t p c, x.run.run s = (.ok v, t) ∧ s.Precedes t false ∧
      t.object? v = some (.destination d p c) ∧ t.Linked d p c := by
  obtain ⟨u, p, c, hu, hl, hrun⟩ := h
  have hadd : u.Precedes (u.add (.destination d p c)).2 false := u.precedes_add_destination hl
  exact ⟨_, _, p, c, hrun, hu.trans hadd, u.object?_add_self _, hadd.linked_of_linked hl⟩

end Makes

namespace Above

/-- A destination is added after its proxy configuration, and after its properties unless they are
given. -/
theorem addDestination {d : Destination} {properties : Option Value}
    (h : ∀ v, properties = some v → s.object? v = some (.properties d.properties)) :
    Above s (addDestination d properties) asking := by
  intro t ht
  have hmakes : Makes d (Session.addDestination d properties) t :=
    .addDestination fun v hv => ht.object?_eq (h v hv) rfl
  obtain ⟨v, u, p, c, hrun, hu, -⟩ := hmakes.made
  rw [stateAfter, hrun]
  exact ht.trans hu.of_calm

theorem headersGiven (v : Value) : Above s (headersGiven v) asking :=
  ite (requireElements v) (pure _)

theorem providersGiven (v : Option Value) : Above s (providersGiven v) asking := by
  cases v with
  | none => exact pure _
  | some v => exact requireElements v

/-- A destination that is created asks its factory, if there is a store to ask it about. -/
theorem makeDestination (store : Value) (headers providers : List Value) (factory : Value) :
    Above s (makeDestination store headers providers factory) := by
  refine get_bind fun t _ => bind (askFactory _ _) fun derive => ?_
  cases hp : t.store? store with
  | none => exact throw _
  | some p =>
    refine bind (perform _) fun proxy => addDestination ?_
    intro v hv
    cases hv
    exact object?_of_store? hp

/-- The place that is built with holds a builder. -/
theorem buildDestination {self : Value} {b₀ : Builder} (b : Builder)
    (h : s.object? self = some (.builder b₀)) : Above s (buildDestination self b) := by
  refine bind (update h rfl (.builder _ _)) fun _ => get_bind fun t ht =>
    bind (askFactory _ _) fun derive => bind (perform _) fun d => ?_
  exact addDestination fun v hv => by cases hv

end Above

/-! ## Requests -/

/-- A provider that is asked notes the call in its own place. -/
theorem precedes_ask (headers : Nat) (s : State) (v : Value) (url : Url) :
    s.Precedes (ask headers s v url).1 asking := by
  unfold ask
  split
  · rename_i id p ho
    dsimp only
    split <;> exact State.precedes_update ho (.provider p _)
  · exact .refl s
  · exact .refl s

variable {answer : Ask State}

/-- A round of providers leads to a later state if each provider does. -/
theorem precedes_setHeaders (h : ∀ (s : State) v url, s.Precedes (answer s v url).1 asking)
    (providers : List Value) (s : State) (r : Request) :
    s.Precedes (Exchange.setHeaders answer s r providers).1 asking := by
  -- By induction on the providers: each is asked in the state that the one before it left.
  induction providers generalizing s r with
  | nil => exact .refl s
  | cons p rest ih =>
    have hp := h s p r.url
    unfold Exchange.setHeaders
    split
    · rename_i hs
      rw [hs] at hp
      exact hp
    · rename_i hs
      rw [hs] at hp
      split
      · exact hp
      · exact hp.trans (ih _ _)

/-- An exchange is rounds of providers, one for each request. -/
theorem precedes_sendWithin (h : ∀ (s : State) v url, s.Precedes (answer s v url).1 asking)
    (cookies : CookieRule) (providers : List Value) (follow : Bool) (hops : Nat) (r : Request)
    (history : List Int) (x : Exchange State) :
    x.providers.Precedes
      (Exchange.sendWithin answer cookies providers follow hops r history x).1.providers
      asking := by
  -- By induction on the hops; of a round, only its providers change the state.
  induction hops generalizing r history x with
  | zero => exact .refl _
  | succ hops ih =>
    have hp := precedes_setHeaders h providers x.providers r
    unfold Exchange.sendWithin
    split
    · rename_i hs
      rw [hs] at hp
      exact hp
    · rename_i hs
      rw [hs] at hp
      dsimp only
      split
      · exact hp
      · split
        · exact hp
        · exact hp
        · exact hp.trans (ih _ _ ⟨_, _, _, _, _⟩)

namespace Above

/-- The place that is sent with holds a client. -/
theorem sendRequest {self : Value} {c : Client} {responses : List Response} {closed : Bool}
    (h : s.object? self = some (.client c responses closed)) (method : String)
    (url payload : Value) :
    Above s (sendRequest self c responses closed method url payload) asking := by
  refine bind (resolve url) fun url => bind (resolve payload) fun payload => ?_
  split
  · exact pure _
  · rename_i request _
    apply ite (pure _)
    refine get_bind fun t ht => ?_
    -- What changes is what the providers were asked; the client is updated in a state that comes
    -- later.
    have hx : t.Precedes (Exchange.send (ask c.destination.headers.length) c.cookies
        c.destination.providers c.followRedirects.isTruthy request
        ⟨t, responses, c.seen, [], []⟩).1.providers asking :=
      precedes_sendWithin (precedes_ask _) _ _ _ _ _ _ ⟨t, responses, c.seen, [], []⟩
    refine bind (set hx) fun _ => bind (update_later h ht rfl (.client ..)) fun _ =>
      bind (write _) fun _ => ?_
    split <;> exact pure _

/-! ## Making and calling things -/

/-- A factory is asked only where a destination is made. -/
theorem create {kind : Kind} (args : List Value) (h : kind = .destination → asking = true) :
    Above s (create kind args) asking := by
  refine get_bind fun t _ => ?_
  cases kind with
  | builder | properties | draft | credentials => exact add rfl
  | header | value => exact pure _
  | proxy =>
    dsimp only
    split
    · exact bind (pure _) fun _ => add rfl
    · exact bind (orFail _ _) fun _ => add rfl
  | factory =>
    dsimp only
    split
    · exact bind (orFail _ _) fun _ => add rfl
    · exact add rfl
  -- The one kind that asks a factory.
  | destination =>
    obtain rfl := h rfl
    exact bind (headersGiven _) fun headers => bind (providersGiven _) fun providers =>
      makeDestination _ headers providers _
  | client responses =>
    dsimp only
    split
    · exact bind (orFail _ _) fun _ => add rfl
    · exact throw _

/-- The place of a builder may get any builder that a call makes of it. -/
theorem keepBuilder {r : State} {self : Value} {b : Builder}
    (h : r.object? self = some (.builder b)) (hrs : r.Precedes s asking)
    (x : Except BuilderError Builder) : Above s (keepBuilder self x) asking :=
  bind (orFail _ _) fun _ => bind (update_later h hrs rfl (.builder _ _)) fun _ => pure _

/-- Headers are taken into the builder before an error is raised, so the builder is updated in any
case. -/
theorem takeHeaders {r : State} {self : Value} {b : Builder}
    (h : r.object? self = some (.builder b)) (hrs : r.Precedes s asking) (given : Iteration) :
    Above s (takeHeaders self b given) asking := by
  cases given with
  | refused typeName => exact throw _
  | complete items => exact keepBuilder h hrs _
  | broken items message => exact bind (update_later h hrs rfl (.builder _ _)) fun _ => throw _

/-- A factory is asked only where a destination is built. -/
theorem callBuilder {self : Value} {b : Builder} {method : Method}
    (h : s.object? self = some (.builder b)) (args : List Value)
    (hbuild : method = .build → asking = true) :
    Above s (callBuilder self b method args) asking := by
  refine get_bind fun t ht => ?_
  cases method with
  | property | removeProperty => exact bind (propertyName _) fun _ => keepBuilder h ht _
  | get => exact bind (readEntry _ _ _) fun _ => pure _
  | header | fixed | instanceName | headerProviders => exact keepBuilder h ht _
  | headers | headersUntil => exact takeHeaders h ht _
  | build =>
    obtain rfl := hbuild rfl
    -- The builder may have been replaced in the meantime, but only by a builder.
    obtain ⟨o, ho, hb⟩ := ht.becomes h
    cases hb with
    | same => exact bind (buildDestination b ho) fun _ => pure _
    | builder => exact bind (buildDestination b ho) fun _ => pure _
  | _ => exact throw _

/-- A call on a builder of properties changes that builder only. -/
theorem callDraft {self : Value} {d : Draft} (h : s.object? self = some (.draft d))
    (method : Method) (args : List Value) : Above s (callDraft self d method args) asking := by
  refine get_bind fun t ht => ?_
  -- The first two methods update the builder, the others look at it.
  cases method with
  | property =>
    exact bind (propertyName _) fun _ => bind (checkName _) fun _ =>
      bind (update_later h ht rfl (.draft _ _)) fun _ => pure _
  | removeProperty =>
    refine bind (propertyName _) fun name => ?_
    have erase (name : PropertyName) : Above t (do
        Session.update self (.draft (d.erase name.value))
        return Answer.self self) asking := bind (update_later h ht rfl (.draft _ _)) fun _ => pure _
    exact ite (erase name) (bind (checkName name) fun _ => erase name)
  | get => exact bind (readEntry _ _ _) fun _ => pure _
  | contains => exact bind (hasEntry _ _) fun _ => pure _
  | propertyNames => exact bind (place _ _) fun _ => pure _
  | build => exact bind (add rfl) fun _ => pure _
  | _ => exact throw _

/-- A call on properties adds what it hands out. -/
theorem callProperties (p : Properties) (method : Method) (args : List Value) :
    Above s (callProperties p method args) asking := by
  cases method with
  | get => exact bind (readEntry _ _ _) fun _ => pure _
  | contains => exact bind (hasEntry _ _) fun _ => pure _
  | propertyNames | asDict => exact bind (place _ _) fun _ => pure _
  | _ => exact throw _

/-- A call on a destination adds what it hands out. -/
theorem callDestination (d : Destination) (proxy : Value) (method : Method) (args : List Value) :
    Above s (callDestination d proxy method args) asking := by
  cases method with
  | uri | tlsVersion => exact bind (orFail _ _) fun _ => pure _
  | ownHeaders | ownProviders | proxyConfiguration | proxyType | trustsAll
  | authenticationType => exact pure _
  | get => exact bind (readEntry _ _ _) fun _ => pure _
  | propertyNames => exact bind (place _ _) fun _ => pure _
  | arbitraryProperty => exact bind (resolve _) fun _ => throw _
  | _ => exact throw _

/-- A call on a client changes that client and what it records. -/
theorem callClient {self : Value} {c : Client} {responses : List Response} {closed : Bool}
    (h : s.object? self = some (.client c responses closed)) (method : Method)
    (args : List Value) : Above s (callClient self c responses closed method args) asking := by
  cases method with
  | get | fetch | postJson => exact sendRequest h _ _ _
  | enter => exact pure _
  | close => exact bind (update h rfl (.client ..)) fun _ => pure _
  | _ => exact throw _

/-- The place of a container may get any content, whatever the change makes of it. -/
theorem changeContainer {r : State} {self content : Value}
    (h : r.object? self = some (.container content)) (hrs : r.Precedes s asking) (c : Change)
    (args : List Value) : Above s (changeContainer self content c args) asking :=
  get_bind fun _ ht => bind (update_later h (hrs.trans ht) rfl (.container _ _)) fun _ => orFail _ _

/-- A call on a container changes its content. -/
theorem callContainer {self content : Value} (h : s.object? self = some (.container content))
    (method : Method) (args : List Value) :
    Above s (callContainer self content method args) asking := by
  cases method with
  | change c => exact bind (changeContainer h (.refl s) c args) fun _ => pure _
  | _ => exact throw _

end Above

/-! ## Calls on things of one kind -/

/-- A call on a builder is one of the calls of builders. -/
theorem call_builder {v : Value} {b : Builder} (h : s.object? v = some (.builder b))
    (method : Method) (args : List Value) :
    (call method v args).run.run s = (callBuilder v b method args).run.run s := by
  rw [call, bind_eq_of_ok (get_eq s), h]

/-- A call on properties is one of their calls. -/
theorem call_properties {v : Value} {p : Properties} (h : s.object? v = some (.properties p))
    (method : Method) (args : List Value) :
    (call method v args).run.run s = (callProperties p method args).run.run s := by
  rw [call, bind_eq_of_ok (get_eq s), h]

/-- A call on a destination is one of the calls of destinations. -/
theorem call_destination {v q c : Value} {d : Destination}
    (h : s.object? v = some (.destination d q c)) (method : Method) (args : List Value) :
    (call method v args).run.run s = (callDestination d c method args).run.run s := by
  rw [call, bind_eq_of_ok (get_eq s), h]

/-- Whether a call creates a destination or asks a factory itself. -/
def State.asksFactory (s : State) (method : Method) (self : Value) : Bool :=
  match s.object? self, method with
  | some (.builder _), .build => true
  | some (.factory _), .proxyConfiguration => true
  | _, _ => false

/-- A call leads to a later state, and asks no factory unless it is one of the two calls that do. -/
theorem precedes_call {method : Method} {self : Value} (args : List Value)
    (h : s.asksFactory method self = true → asking = true) :
    s.Precedes (stateAfter (call method self args) s) asking := by
  rw [call, stateAfter_bind_of_ok (get_eq s)]
  -- One case for each kind of object; a factory is the only one besides a builder that asks.
  split
  · rename_i ho
    refine Above.callBuilder ho _ (fun hbuild => h ?_) s (.refl s)
    simp [State.asksFactory, ho, hbuild]
  · rename_i ho
    exact Above.callDraft ho _ _ s (.refl s)
  · exact Above.callProperties _ _ _ s (.refl s)
  · exact Above.callDestination _ _ _ _ s (.refl s)
  · rename_i ho
    exact Above.callClient ho _ _ s (.refl s)
  · rename_i ho
    exact Above.callContainer ho _ _ s (.refl s)
  · exact Above.bind (.orFail _ _) (fun _ => .bind (.add rfl) fun _ => .pure _) s (.refl s)
  · rename_i ho
    obtain rfl : asking = true := h (by simp [State.asksFactory, ho])
    refine Above.bind (.askFactory _ _) (fun _ => ?_) s (.refl s)
    split
    · exact .bind (.perform _) fun _ => .bind (.addProxy _) fun _ => .pure _
    · exact .throw _
  · exact Above.throw _ s (.refl s)

namespace Above

/-- A call leads to a later state. -/
theorem call (method : Method) (self : Value) (args : List Value) :
    Above s (call method self args) :=
  fun _ ht => ht.trans (precedes_call args fun _ => rfl)

/-! ## Looking at things -/

/-- Writing down a value looks at the state only. -/
theorem literalOf (v : Value) : Above s (literalOf v) asking := by
  refine get_bind fun t _ => ?_
  split <;> exact pure _

/-- Comparing values looks at the state only. -/
theorem equal (a b : Value) : Above s (equal a b) asking := by
  refine get_bind fun t _ => ?_
  split
  all_goals first | exact pure _ | exact orFail _ _

/-- A digest is read off the state. -/
theorem digestOf (v : Value) : Above s (digestOf v) asking := by
  refine get_bind fun t _ => ?_
  split <;> exact orFail _ _

/-- A part of an object is there already, or is added when it is read. -/
theorem partOf (v : Value) (name : String) : Above s (partOf v name) asking := by
  refine get_bind fun t _ => ?_
  split
  all_goals first | exact pure _ | exact throw _

/-! ## Changing things -/

/-- No part of an object can be set. -/
theorem setPart (v : Value) (name : String) : Above s (setPart v name) asking := by
  refine get_bind fun t _ => ?_
  split
  all_goals first | exact pure _ | exact throw _

/-- An element is set in a container, or the step fails. -/
theorem setItem (v key value : Value) : Above s (setItem v key value) asking := by
  refine get_bind fun t ht => ?_
  split
  · rename_i ho
    exact discard (changeContainer ho (.refl t) _ _)
  · exact throw _

/-- An element is deleted from a container, or the step fails. -/
theorem deleteItem (v key : Value) : Above s (deleteItem v key) asking := by
  refine get_bind fun t ht => ?_
  split
  · rename_i ho
    exact discard (changeContainer ho (.refl t) _ _)
  · exact throw _

end Above

/-! ## Steps -/

/-- Whether a step creates a destination or asks a factory itself. -/
def Step.asksFactory (s : State) : Step → Bool
  | .create .destination _ => true
  | .call method on args =>
    match (Expr.evalAll (on :: args)).run.run s with
    | (.ok (self :: _), t) => t.asksFactory method self
    | _ => false
  | _ => false

/-- A call is the call of what its arguments stand for, if they stand for anything. -/
theorem precedes_perform_call {method : Method} {on : Expr} {args : List Expr}
    (h : (Step.call method on args).asksFactory s = true → asking = true) :
    s.Precedes (stateAfter (Step.call method on args).perform s) asking := by
  rw [Step.asksFactory, Expr.evalAll] at h
  rw [Step.perform, stateAfter]
  -- What the method is called on is evaluated first, then the arguments; each may fail.
  rcases hon : on.eval.run.run s with ⟨r, t⟩
  have hst : s.Precedes t asking := (Above.eval s on).precedes hon
  cases r with
  | error e =>
    rw [bind_eq_of_error hon]
    exact hst
  | ok self =>
    rcases hargs : (Expr.evalAll args).run.run t with ⟨r, u⟩
    have htu : t.Precedes u asking := (Above.evalAll t args).precedes hargs
    rw [bind_eq_of_ok hon]
    cases r with
    | error e =>
      rw [bind_eq_of_error hargs]
      exact hst.trans htu
    | ok vs =>
      rw [bind_eq_of_ok hon, bind_eq_of_ok hargs] at h
      rw [bind_eq_of_ok hargs]
      exact (hst.trans htu).trans (precedes_call vs h)

/-- A step leads to a later state, and keeps the factories as they are unless it creates a
destination or asks a factory itself. -/
theorem precedes_perform (x : Step) (h : x.asksFactory s = true → asking = true) :
    s.Precedes (stateAfter x.perform s) asking := by
  have above {y : Action Answer} (hy : Above s y asking) : s.Precedes (stateAfter y s) asking :=
    hy s (.refl s)
  -- Each step evaluates its expressions, then does what it is about.
  cases x with
  | create kind args =>
    have hkind : kind = .destination → asking = true := by
      rintro rfl
      exact h rfl
    exact above (.bind (.evalAll _ args) fun _ => .bind (.create _ hkind) fun _ => .pure _)
  | call method on args => exact precedes_perform_call h
  | view e => exact above (.bind (.eval _ e) fun _ => .pure _)
  | part e name => exact above (.bind (.eval _ e) fun _ => .bind (.partOf _ _) fun _ => .pure _)
  | literal e => exact above (.bind (.eval _ e) fun _ => .bind (.literalOf _) fun _ => .pure _)
  | length e => exact above (.bind (.eval _ e) fun _ => .bind (.lengthOf _) fun _ => .pure _)
  | elements e =>
    exact above (.bind (.eval _ e) fun _ => .bind (.requireElements _) fun _ => .pure _)
  | equal a b =>
    exact above (.bind (.eval _ a) fun _ => .bind (.eval _ b) fun _ => .bind (.equal _ _) fun _ =>
      .pure _)
  | same a b => exact above (.bind (.eval _ a) fun _ => .bind (.eval _ b) fun _ => .pure _)
  | sameHash a b =>
    exact above (.bind (.eval _ a) fun _ => .bind (.eval _ b) fun _ => .bind (.digestOf _) fun _ =>
      .bind (.digestOf _) fun _ => .pure _)
  | setPart e name value =>
    exact above (.bind (.eval _ e) fun _ => .bind (.discard (.eval _ value)) fun _ =>
      .bind (.setPart _ _) fun _ => .pure _)
  | setItem e key value =>
    exact above (.bind (.eval _ e) fun _ => .bind (.eval _ key) fun _ =>
      .bind (.eval _ value) fun _ => .bind (.setItem _ _ _) fun _ => .pure _)
  | deleteItem e key =>
    exact above (.bind (.eval _ e) fun _ => .bind (.eval _ key) fun _ =>
      .bind (.deleteItem _ _) fun _ => .pure _)

/-! ## Reports -/

/-- The report of a step whose action succeeds. -/
theorem step_of_ok {x : Step} {a : Answer} (name : Option String)
    (h : x.perform.run.run { s with records := [] } = (.ok a, t)) :
    (step s (x, name)).answer = a ∧ (step s (x, name)).state.objects = t.objects := by
  have h' : (x.perform.run { s with records := [] }).run = (.ok a, t) := h
  unfold step
  dsimp only at h' ⊢
  rw [h']
  exact ⟨rfl, rfl⟩

/-- The report of a step whose action fails. -/
theorem step_of_error {x : Step} {e : Failure} (name : Option String)
    (h : x.perform.run.run { s with records := [] } = (.error e, t)) :
    (step s (x, name)).answer = .failed e := by
  have h' : (x.perform.run { s with records := [] }).run = (.error e, t) := h
  unfold step
  dsimp only at h' ⊢
  rw [h']

/-- A step that answers a value has succeeded. -/
theorem perform_of_answer {x : Step} {name : Option String} {v : Value}
    (h : (step s (x, name)).answer = .value v) :
    ∃ u, x.perform.run.run { s with records := [] } = (.ok (.value v), u) ∧
      (step s (x, name)).state.objects = u.objects := by
  rcases hr : x.perform.run.run { s with records := [] } with ⟨r, u⟩
  -- An answer with a value is not a failure.
  cases r with
  | ok a =>
    have hs := step_of_ok name hr
    rw [hs.1] at h
    rw [h]
    exact ⟨u, rfl, hs.2⟩
  | error e =>
    rw [step_of_error name hr] at h
    cases h

/-- A step leaves the objects that its action leaves. -/
theorem objects_step (s : State) (command : Step × Option String) :
    (step s command).state.objects =
      (stateAfter command.1.perform { s with records := [] }).objects := by
  unfold step stateAfter
  dsimp only
  split <;> rfl

/-- A step leads to a later state, whether it succeeds or fails. -/
theorem precedes_step (s : State) (command : Step × Option String) :
    s.Precedes (step s command).state := by
  have h : State.Precedes { s with records := [] } (stateAfter command.1.perform _) :=
    precedes_perform command.1 fun _ => rfl
  have hs : s.Precedes { s with records := [] } := .of_objects rfl
  exact (hs.trans h).trans (.of_objects (objects_step s command))

/-- The state after steps taken one after the other. -/
def State.after (s : State) (commands : List (Step × Option String)) : State :=
  (run s commands).foldl (fun _ report => report.state) s

/-- A run leads to a later state. -/
theorem precedes_after (s : State) (commands : List (Step × Option String)) :
    s.Precedes (s.after commands) := by
  induction commands generalizing s with
  | nil => exact .refl s
  | cons command rest ih => exact (precedes_step s command).trans (ih _)

end Egress.Session
