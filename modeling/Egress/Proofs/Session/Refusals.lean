import Egress.Proofs.Session.BuilderCalls

/-!
# Calls that fail

A call on a builder that fails leaves the session as it was: names are looked up, arguments checked
and values read before anything is put into a place. There are two exceptions. A build sets the
default address before it derives the proxy configuration; when the derivation fails, the address
stays. Headers are added one by one as they are given; when an error comes behind some of them, they
stay.

## Key results

- `FailsInPlace`, `Looks`, `Succeeds`: what an action does to the state when it fails, always, never
- `Builder.Refuses`: the reasons why a call on a builder fails
- `State.holding?`: what a builder of a session holds, as it is at present
- `holding_of_failed`: what a failed call leaves
- `not_held_by_failed_build`: the address that a failed build leaves behind
-/

namespace Egress

/-! ### Reasons -/

/-- Why a call on a builder fails. -/
inductive Builder.Refuses (b : Builder) : Builder.Call → BuilderError → Prop where
  -- A name that cannot be looked up.
  | property {name : PropertyName} {value : Value} {e : Unhashable}
      (hname : name.value.digest = .error e) : Refuses b (.property name value) (.unhashable e)
  | removeProperty {name : PropertyName} {e : Unhashable} (hname : name.value.digest = .error e)
      (hentries : b.draft.entries ≠ []) : Refuses b (.removeProperty name) (.unhashable e)
  -- A header together with a value, or a name without one.
  | surplusValue {name content value : Value} (hvalue : value ≠ .null) :
      Refuses b (.header (.header name content) value) .surplusValue
  | missingValue {name : Value} (hname : ∀ n v, name ≠ .header n v) :
      Refuses b (.header name .null) (.missingValue name)
  | fixed {h : FixedHeader} : Refuses b (.fixed h .null) (.missingValue (.text h.name))
  | notIterable {typeName : String} :
      Refuses b (.headers (.refused typeName)) (.notIterable typeName)
  -- An error behind some headers.
  | broken {items : List Value} {message : String} :
      Refuses b (.headers (.broken items message)) (.broken message)
  -- The first of the arguments that gives no headers.
  | notProvider {gives : Value → Bool} {before after : List Value} {v : Value}
      (hbefore : ∀ w ∈ before, gives w) (hv : gives v = false) :
      Refuses b (.headerProviders gives (before ++ v :: after)) (.notProvider v)

namespace Builder

variable {b : Builder}

/-- A header is refused together with a value, and a name is refused without one. -/
theorem addHeader_eq_error {name value : Value} {e : BuilderError}
    (h : b.addHeader name value = .error e) : b.Refuses (.header name value) e := by
  unfold addHeader at h
  split at h
  · cases h
  -- The second and third case are the two shapes of arguments that are refused.
  · rename_i hvalue
    cases h
    exact .surplusValue hvalue
  · rename_i hname
    cases h
    exact .missingValue hname
  · cases h

/-- A call that may be refused fails when it is. -/
theorem unlessRefused_eq_some {x : Except BuilderError Builder} {e : BuilderError} :
    (b.unlessRefused x).2 = some e ↔ x = .error e := by
  cases x <;> simp [unlessRefused]

/-- A call fails for one of the reasons, and for each of them. -/
theorem call_eq_some_iff {c : Call} {e : BuilderError} :
    (b.call c).2 = some e ↔ b.Refuses c e := by
  constructor
  -- From the failure, follow the definition of each call to the reason.
  · intro h
    cases c with
    | property name value =>
      simp only [call, put, unlessRefused_eq_some] at h
      split at h
      · rename_i hname
        cases h
        exact .property hname
      · cases h
    | removeProperty name =>
      simp only [call, erase, unlessRefused_eq_some] at h
      split at h
      · cases h
      · rename_i hentries
        split at h
        · rename_i hname
          cases h
          exact .removeProperty hname fun hnil => hentries (List.isEmpty_iff.2 hnil)
        · cases h
    | header name value => exact addHeader_eq_error (unlessRefused_eq_some.1 h)
    | headers given =>
      cases given with
      | refused typeName => cases h; exact .notIterable
      | complete items => cases h
      | broken items message => cases h; exact .broken
    | fixed f value =>
      cases addHeader_eq_error (unlessRefused_eq_some.1 h) with
      | missingValue _ => exact .fixed
    | instanceName name => cases h
    | headerProviders gives items =>
      simp only [call, addProviders, unlessRefused_eq_some] at h
      split at h
      · rename_i v hfind
        cases h
        obtain ⟨hv, before, after, rfl, hbefore⟩ := List.find?_eq_some_iff_append.1 hfind
        exact .notProvider (fun w hw => by simpa using hbefore w hw) (by simpa using hv)
      · cases h
    | get name => cases h
  -- From the reason, evaluate the call.
  · intro h
    cases h with
    | property hname => simp only [call, put, hname, unlessRefused]
    | removeProperty hname hentries =>
      rw [call, erase, if_neg (by simpa using hentries)]
      simp only [hname, unlessRefused]
    | @surplusValue _ _ value hvalue => cases value <;> first | rfl | exact absurd rfl hvalue
    | @missingValue name hname => cases name <;> first | rfl | exact absurd rfl (hname _ _)
    | fixed => rfl
    | notIterable => rfl
    | broken => rfl
    | @notProvider gives before after v hbefore hv =>
      have hfind : (before ++ v :: after).find? (!gives ·) = some v :=
        List.find?_eq_some_iff_append.2
          ⟨by simp [hv], before, after, rfl, fun w hw => by simp [hbefore w hw]⟩
      simp only [call, addProviders, hfind, unlessRefused]

end Builder

namespace Session

variable {α β ε : Type} {s t : State}

/-! ### Failing in place -/

/-- An action that fails leaves the state as it was. -/
def FailsInPlace (x : Action α) : Prop := ∀ s e t, x.run.run s = (.error e, t) → t = s

/-- An action leaves the state as it was. -/
def Looks (x : Action α) : Prop := ∀ s, stateAfter x s = s

/-- An action does not fail. -/
def Succeeds (x : Action α) : Prop := ∀ s, ∃ a t, x.run.run s = (.ok a, t)

namespace Looks

theorem pure (a : α) : Looks (pure a) := fun _ => rfl

theorem get : Looks get := fun _ => rfl

/-- A sequence looks if both of its parts look. -/
theorem bind {x : Action α} {f : α → Action β} (hx : Looks x) (hf : ∀ a, Looks (f a)) :
    Looks (x >>= f) := by
  intro s
  rcases stateAfter_bind_cases x f s with h | ⟨a, h⟩
  · rw [h]
    exact hx s
  · rw [h, hx s]
    exact hf a s

/-- Whether a result goes on or fails, the state stays. -/
theorem orFail (f : ε → Failure) (x : Except ε α) : Looks (orFail f x) := by
  cases x <;> exact fun _ => rfl

theorem propertyName (v : Value) : Looks (propertyName v) := get.bind fun _ => pure _

theorem checkName (name : PropertyName) : Looks (checkName name) :=
  (orFail _ _).bind fun _ => pure _

end Looks

namespace Succeeds

theorem pure (a : α) : Succeeds (pure a) := fun s => ⟨a, s, rfl⟩

theorem add (o : Object) : Succeeds (add o) := fun _ => ⟨_, _, rfl⟩

/-- An object is updated or, where there is none, nothing is. -/
theorem update (v : Value) (o : Object) : Succeeds (update v o) := by
  cases v <;> exact fun _ => ⟨_, _, rfl⟩

/-- A sequence does not fail if neither of its parts does. -/
theorem bind {x : Action α} {f : α → Action β} (hx : Succeeds x) (hf : ∀ a, Succeeds (f a)) :
    Succeeds (x >>= f) := by
  intro s
  obtain ⟨a, t, hr⟩ := hx s
  rw [bind_eq_of_ok hr]
  exact hf a t

/-- Not failing is inherited from the parts of a sequence. -/
theorem sequential : Sequential Succeeds := ⟨pure, bind, fun _ => add _⟩

end Succeeds

namespace FailsInPlace

/-- What leaves every state as it is leaves it as it is on failure. -/
theorem of_looks {x : Action α} (hx : Looks x) : FailsInPlace x := by
  intro s e t hr
  have h := hx s
  rwa [stateAfter, hr] at h

/-- What never fails leaves nothing behind on failure. -/
theorem of_succeeds {x : Action α} (hx : Succeeds x) : FailsInPlace x := by
  intro s e t hr
  obtain ⟨a, u, h⟩ := hx s
  rw [h] at hr
  cases hr

/-- What comes after steps that only look may fail in place. -/
theorem bind {x : Action α} {f : α → Action β} (hx : Looks x) (hf : ∀ a, FailsInPlace (f a)) :
    FailsInPlace (x >>= f) := by
  intro s e t hr
  have hs := hx s
  rcases hx' : x.run.run s with ⟨r, u⟩
  rw [stateAfter, hx'] at hs
  obtain rfl : u = s := hs
  -- The first action left the state, so a failure of either part ends in it.
  cases r with
  | ok a =>
    rw [bind_eq_of_ok hx'] at hr
    exact hf a _ _ _ hr
  | error e' =>
    rw [bind_eq_of_error hx'] at hr
    cases hr
    rfl

/-- What comes before steps that do not fail may fail in place. -/
theorem before {x : Action α} {f : α → Action β} (hx : FailsInPlace x) (hf : ∀ a, Succeeds (f a)) :
    FailsInPlace (x >>= f) := by
  intro s e t hr
  rcases hx' : x.run.run s with ⟨r, u⟩
  -- The second action does not fail, so the failure is of the first.
  cases r with
  | ok a =>
    rw [bind_eq_of_ok hx'] at hr
    obtain ⟨b, w, h⟩ := hf a u
    rw [h] at hr
    cases hr
  | error e' =>
    rw [bind_eq_of_error hx'] at hr
    cases hr
    exact hx s _ _ hx'

theorem throw (e : Failure) : FailsInPlace (throw e : Action α) := of_looks fun _ => rfl

theorem pure (a : α) : FailsInPlace (pure a) := of_looks (.pure a)

/-- A read that fails has not placed anything yet. -/
theorem readEntry (entries : List (Value × Value)) (key conversion : Value) :
    FailsInPlace (readEntry entries key conversion) := by
  -- A name that is refused ends the call before anything was placed.
  refine bind (.propertyName key) fun name => bind (.checkName name) fun _ => ?_
  split
  · exact pure _
  · refine bind .get fun t => ?_
    split
    · exact pure _
    · exact bind (.orFail _ _) fun v => of_succeeds (Succeeds.sequential.place v)
    · exact bind (.orFail _ _) fun v => of_succeeds (Succeeds.sequential.place v)
    · exact pure _

/-- What a call makes of a builder is put into its place last. -/
theorem keepBuilder (self : Value) (x : Except BuilderError Builder) :
    FailsInPlace (keepBuilder self x) :=
  bind (.orFail _ _) fun _ => of_succeeds ((Succeeds.update _ _).bind fun _ => .pure _)

/-- Headers without an error behind them are added together. -/
theorem takeHeaders (self : Value) (b : Builder) (s : State) (v : Value) :
    FailsInPlace (takeHeaders self b (s.iteration v none)) := by
  unfold State.iteration
  cases s.elements? v with
  | none => exact throw _
  | some items => exact keepBuilder self _

/-- Every call on a builder fails in place but a build and one with headers before an error. -/
theorem callBuilder {method : Method} (hbuild : method ≠ .build)
    (hbroken : ∀ message, method ≠ .headersUntil message) (self : Value) (b : Builder)
    (args : List Value) : FailsInPlace (callBuilder self b method args) := by
  unfold Session.callBuilder
  refine bind .get fun s => ?_
  cases method with
  -- The two methods that are left out, then those that change the builder, read it, or neither.
  | build => exact absurd rfl hbuild
  | headersUntil message => exact absurd rfl (hbroken message)
  | property | removeProperty => exact bind (.propertyName _) fun name => keepBuilder self _
  | headers => exact takeHeaders self b s _
  | get => exact before (readEntry _ _ _) fun _ => .pure _
  | header | fixed | instanceName | headerProviders => exact keepBuilder self _
  | _ => exact throw _

end FailsInPlace

/-! ### What a builder holds -/

/-- What a builder holds, with every container shown as it is at present. -/
structure Holding where
  properties : List (Value × Value)
  headers : List Value
  providers : List Value

namespace Holding

/-- The same with the default address last, unless there is an address. -/
def withAddress (h : Holding) : Holding :=
  if (Value.entry? h.properties (.text PropertyKey.url.name)).isSome then h
  else { h with properties := h.properties ++ [(.text PropertyKey.url.name, .text defaultAddress)] }

/-- The same with more headers behind the others. -/
def withHeaders (h : Holding) (more : List Value) : Holding :=
  { h with headers := h.headers ++ more }

/-- The names of the properties as they are shown. -/
def names (h : Holding) : List String := h.properties.map (·.1.display)

end Holding

/-- What the builder that a value refers to holds. -/
def State.holding? (s : State) (v : Value) : Option Holding :=
  match s.object? v with
  | some (.builder b) =>
    some ⟨b.draft.entries.map fun e => (e.1, s.resolve e.2), b.headers.map s.resolve, b.providers⟩
  | _ => none

/-- The default address is put under a new name, so it comes last. -/
theorem entries_withAddress (b : Builder) : b.withAddress.draft.entries =
    if (Value.entry? b.draft.entries (.text PropertyKey.url.name)).isSome then b.draft.entries
    else b.draft.entries ++ [(.text PropertyKey.url.name, .text defaultAddress)] := by
  rw [Builder.withAddress_eq]
  split
  · rfl
  · rename_i hnone
    rw [Draft.put, Value.putEntry, Value.any_sameKey, if_neg hnone]

/-- A builder with a default address holds the default address. -/
theorem holding_withAddress {v : Value} {b : Builder} (h : s.object? v = some (.builder b))
    (ht : t.object? v = some (.builder b.withAddress)) (hsame : SameContainers s t) :
    t.holding? v = (s.holding? v).map Holding.withAddress := by
  -- The default address refers to nothing, so it shows as itself.
  have haddress : s.resolve (.text defaultAddress) = .text defaultAddress :=
    resolve_of_isPlain s rfl
  simp only [State.holding?, h, ht, hsame.resolve, entries_withAddress,
    Builder.headers_withAddress, Builder.providers_withAddress, Option.map_some,
    Holding.withAddress, Value.entry?_map s.resolve, Option.isSome_map]
  split
  · rfl
  · rw [List.map_append, List.map_singleton, haddress]

/-! ### Failed calls -/

/-- A destination can always be added. -/
theorem Succeeds.addDestination (d : Destination) : Succeeds (Session.addDestination d none) :=
  (add _).bind fun _ => (sequential.addProxy _).bind fun _ => add _

/-- What remains of a build writes what it has to write before it fails, and nothing else. -/
theorem objects_of_finishBuild {built : Logged Failure Destination} {e : Failure}
    (hfail : (finishBuild built).run.run s = (.error e, t)) : t.objects = s.objects := by
  have hwrite : (write built.records).run.run s =
      (.ok (), { s with records := s.records ++ built.records }) := rfl
  have hrest : FailsInPlace (orFail id built.result >>= fun d => do
      let v ← addDestination d none
      return Answer.value v) :=
    .bind (.orFail _ _) fun d => .of_succeeds ((Succeeds.addDestination d).bind fun _ => .pure _)
  rw [finishBuild, perform, bind_assoc, bind_eq_of_ok hwrite] at hfail
  rw [hrest _ _ _ hfail]

/-- States with the same objects have the same containers. -/
theorem SameContainers.of_objects (h : t.objects = s.objects) : SameContainers s t :=
  ⟨congrArg _ h, fun id => by rw [State.content?, h, State.content?]⟩

/-- A build that fails leaves the builder with an address, and shows everything else as before. -/
theorem holding_of_failed_build {id : Nat} {b : Builder} {args : List Value} {e : Failure}
    (h : s.object? (.ref id) = some (.builder b))
    (hfail : (callBuilder (.ref id) b .build args).run.run s = (.error e, t)) :
    t.holding? (.ref id) = (s.holding? (.ref id)).map Holding.withAddress := by
  obtain ⟨u, built, hobject, hsame, _, hrun⟩ := callBuilder_build args h
  have hobjects : t.objects = u.objects := objects_of_finishBuild (hrun.symm.trans hfail)
  refine holding_withAddress h ?_ (hsame.trans (.of_objects hobjects))
  rw [State.object?, hobjects]
  exact hobject

/-- Headers that come before an error stay, and everything else is shown as before. -/
theorem holding_of_broken_headers {id : Nat} {b : Builder} (message : String) (args : List Value)
    (h : s.object? (.ref id) = some (.builder b)) :
    (stateAfter (callBuilder (.ref id) b (.headersUntil message) args) s).holding? (.ref id) =
      (s.holding? (.ref id)).map
        (·.withHeaders (((s.elements? (args.getD 0 .null)).getD []).map s.resolve)) := by
  rw [callBuilder, stateAfter_bind_of_ok (get_eq s)]
  dsimp only
  -- Without elements nothing is taken; otherwise the builder takes the elements before the error.
  cases helements : s.elements? (args.getD 0 .null) with
  | none =>
    have hiteration : s.iteration (args.getD 0 .null) (some message) =
        .refused (s.typeName (args.getD 0 .null)) := by simp only [State.iteration, helements]
    have hsame : stateAfter (takeHeaders (.ref id) b
        (.refused (s.typeName (args.getD 0 .null)))) s = s := rfl
    rw [hiteration, hsame, State.holding?, h]
    simp [Holding.withHeaders]
  | some items =>
    have hiteration : s.iteration (args.getD 0 .null) (some message) = .broken items message := by
      simp only [State.iteration, helements, Option.elim_some]
    let b' : Builder := { b with headers := b.headers ++ items }
    have hstate : stateAfter (takeHeaders (.ref id) b (.broken items message)) s =
        s.update id (.builder b') := rfl
    have hsame : SameContainers s (s.update id (.builder b')) := .update h rfl rfl
    simp only [hiteration, hstate, State.holding?, object?_update_self h, h, hsame.resolve,
      Option.map_some, Holding.withHeaders, Option.getD_some, b', List.map_append]

/-- A call that fails by a reason of the builder fails by that reason. -/
theorem failed_of_refuses {id : Nat} {b : Builder} {c : Builder.Call} {method : Method}
    {args : List Value} {e : BuilderError} (h : s.object? (.ref id) = some (.builder b))
    (hc : s.builderCall? method args = some c) (hrefuses : b.Refuses c e) :
    ((call method (.ref id) args).run.run s).1 = .error (.builder e) := by
  have hget : method ≠ .get := by
    rintro rfl
    cases hc
    cases hrefuses
  obtain ⟨t, hrun, -⟩ := callBuilder_run h hget hc
  rw [call_builder h, hrun, Builder.call_eq_some_iff.2 hrefuses]

/-- A failed call on a builder of a session leaves the names and values of its properties, its
headers and its providers as they were, with two exceptions. A failed build sets the default address
if there is no address. A call with headers that end with an error adds those before the error. -/
theorem holding_of_failed {id : Nat} {b : Builder} {method : Method} {args : List Value}
    {e : Failure} (h : s.object? (.ref id) = some (.builder b))
    (hfail : (call method (.ref id) args).run.run s = (.error e, t)) :
    (method ≠ .build → (∀ message, method ≠ .headersUntil message) →
      t.holding? (.ref id) = s.holding? (.ref id)) ∧
    (method = .build →
      t.holding? (.ref id) = (s.holding? (.ref id)).map Holding.withAddress) ∧
    ∀ message, method = .headersUntil message →
      t.holding? (.ref id) = (s.holding? (.ref id)).map
        (·.withHeaders (((s.elements? (args.getD 0 .null)).getD []).map s.resolve)) := by
  rw [call_builder h] at hfail
  -- The calls that fail in place, the build, and the headers that break off.
  refine ⟨fun hbuild hbroken => ?_, fun hmethod => ?_, fun message hmethod => ?_⟩
  · rw [FailsInPlace.callBuilder hbuild hbroken _ _ _ s e t hfail]
  · subst hmethod
    exact holding_of_failed_build h hfail
  · subst hmethod
    have hafter := holding_of_broken_headers message args h
    rwa [stateAfter, hfail] at hafter

/-- An action without a value has failed. -/
theorem exists_failure {x : Action α} (h : (x.run.run s).1.toOption.isNone = true) :
    ∃ e, x.run.run s = (.error e, stateAfter x s) := by
  rcases hr : x.run.run s with ⟨r, t⟩
  cases r with
  | ok a =>
    rw [hr] at h
    cases h
  | error e => exact ⟨e, by rw [stateAfter, hr]⟩

/-- Something that gives no headers is refused together with the provider before it, a failed build
sets the default address, and a header before an error stays. -/
theorem holding_of_failed_on_premise :
    let onPremise : Draft := { entries := [(.text "ProxyType", .text "OnPremise")] }
    let header : Value := .header (.text "A") (.text "1")
    let s : State := { objects := [.provider {}, .builder { draft := onPremise }] }
    let t := stateAfter (call .headerProviders (.ref 1) [.ref 0, .int 5]) s
    let u := stateAfter (call .build (.ref 1) []) s
    let broken := call (.headersUntil "no colon") (.ref 1) [.seq .frozen [header]]
    ((call .headerProviders (.ref 1) [.ref 0, .int 5]).run.run s).1.toOption.isNone = true ∧
      t.holding? (.ref 1) = s.holding? (.ref 1) ∧
      ((call .build (.ref 1) []).run.run s).1.toOption.isNone = true ∧
      u.holding? (.ref 1) = (s.holding? (.ref 1)).map Holding.withAddress ∧
      (broken.run.run s).1.toOption.isNone = true ∧
      (stateAfter broken s).holding? (.ref 1) =
        (s.holding? (.ref 1)).map (·.withHeaders [header]) := by
  intro onPremise header s t u broken
  have hproviders : ((call .headerProviders (.ref 1) [.ref 0, .int 5]).run.run s).1.toOption.isNone =
      true := by decide +kernel
  have hbuild : ((call .build (.ref 1) []).run.run s).1.toOption.isNone = true := by decide +kernel
  have hbroken : (broken.run.run s).1.toOption.isNone = true := by decide +kernel
  -- Each of the three calls fails, so the theorem speaks about the state after it.
  obtain ⟨_, ht⟩ := exists_failure hproviders
  obtain ⟨_, hu⟩ := exists_failure hbuild
  obtain ⟨_, hb⟩ := exists_failure hbroken
  have hresolve : s.resolve header = header := by with_unfolding_all rfl
  refine ⟨hproviders, (holding_of_failed rfl ht).1 nofun nofun, hbuild,
    (holding_of_failed rfl hu).2.1 rfl, hbroken, ?_⟩
  rw [(holding_of_failed rfl hb).2.2 _ rfl]
  simp only [State.elements?, State.object?, Value.elements?, List.getD_cons_zero, Option.getD_some,
    List.map_cons, List.map_nil, hresolve]

/-- A build that fails because on-premise proxies are not available leaves a builder with a property
more than it had. -/
theorem not_held_by_failed_build :
    let b := Expr.var "b"
    let set : Step := .call .property b [.value (.text "ProxyType"), .value (.text "OnPremise")]
    let s := State.after {} [(.create .builder [], some "b"), (set, none)]
    let report := step s (.call .build b [], none)
    (match report.answer with
      | .failed e => some e.message
      | _ => none) = some "On-premise proxies are not available for this destination" ∧
    (s.holding? (.ref 0)).map Holding.names = some ["ProxyType"] ∧
    (report.state.holding? (.ref 0)).map Holding.names = some ["ProxyType", "URL"] ∧
    report.state.holding? (.ref 0) ≠ s.holding? (.ref 0) := by
  intro b set s report
  have hbefore : (s.holding? (.ref 0)).map Holding.names = some ["ProxyType"] := by decide +kernel
  have hafter : (report.state.holding? (.ref 0)).map Holding.names = some ["ProxyType", "URL"] := by
    decide +kernel
  -- The names of the properties tell the two holdings apart.
  refine ⟨by decide +kernel, hbefore, hafter, fun hsame => ?_⟩
  rw [hsame, hbefore] at hafter
  exact absurd hafter (by decide)

end Session

end Egress
