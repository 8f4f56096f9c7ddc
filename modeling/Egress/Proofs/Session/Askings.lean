import Egress.Markup.Parameters
import Egress.Proofs.Session.BuilderCalls
import Egress.Report.Basic

/-!
# What factories are asked

A factory notes the stores that it is asked about. An attempt to create a destination asks the
factory once, about the store of the destination, whether it succeeds or not, unless the headers or
the providers that it is given have no elements. Besides that a factory is asked only when the
session asks it itself. So it can be told from what is done in a session how often each factory is
asked.

## Key results

- `Act`, `State.doneAll`: what is done in a session, reports included
- `Attempt`, `OwnCall`: the acts that ask a factory
- `asked_done`: what one act asks a factory
- `length_asked_doneAll`: how often a factory was asked after many acts
-/

namespace Egress.Session

variable {α β : Type} {s t : State}

/-! ### Acts -/

/-- The report about a destination on a page of some width. -/
def reportOn (e : Expr) (width : Nat) : Action (Except ReportError (List (List Char))) := do
  let v ← e.eval
  let s ← get
  match s.object? v with
  | some (.destination d _ _) =>
    return Destination.report width { d with headers := d.headers.map s.resolve }
  | _ => throw (.noPart (s.typeName v) "get_proxy_configuration")

/-- A report only looks at its destination, or fails. -/
theorem Above.reportOn {asking : Bool} (e : Expr) (width : Nat) :
    Above s (reportOn e width) asking := by
  refine .bind (.eval _ e) fun v => .get_bind fun t _ => ?_
  split
  · exact .pure _
  · exact .throw _

/-- What is done in a session: a step, or a report. -/
inductive Act where
  | step (command : Step × Option String)
  | report (e : Expr) (width : Nat)

/-- The state after an act. -/
def State.done (s : State) : Act → State
  | .step command => (Session.step s command).state
  | .report e width => stateAfter (reportOn e width) { s with records := [] }

/-- The state after acts that are done one after the other. -/
def State.doneAll (s : State) (acts : List Act) : State := acts.foldl State.done s

/-- The first act is done before the others. -/
theorem doneAll_cons (s : State) (act : Act) (rest : List Act) :
    s.doneAll (act :: rest) = (s.done act).doneAll rest := rfl

/-- Acts that follow others start in the state that those left. -/
theorem doneAll_append (s : State) (acts more : List Act) :
    s.doneAll (acts ++ more) = (s.doneAll acts).doneAll more := List.foldl_append

/-- A report leads to a later state and asks no factory. -/
theorem precedes_report {asking : Bool} (s : State) (e : Expr) (width : Nat) :
    s.Precedes (s.done (.report e width)) asking := by
  have hs : s.Precedes { s with records := [] } asking := .of_objects rfl
  exact hs.trans (Above.reportOn e width _ (.refl _))

/-- Whatever is done leads to a later state. -/
theorem precedes_done (s : State) (act : Act) : s.Precedes (s.done act) := by
  cases act with
  | step command => exact precedes_step s command
  | report e width => exact precedes_report s e width

/-- Whatever is done leads to a later state. -/
theorem precedes_doneAll (s : State) (acts : List Act) : s.Precedes (s.doneAll acts) := by
  induction acts generalizing s with
  | nil => exact .refl s
  | cons act rest ih => exact (precedes_done s act).trans (ih _)

/-- What can be read off each of some acts in the state in which it is done. -/
def State.along (look : State → Act → Option α) (s : State) : List Act → List α
  | [] => []
  | act :: rest => (look s act).toList ++ (s.done act).along look rest

/-! ### Acts that ask -/

/-- The values of expressions, and the state in which they are used. -/
def State.evaluated? (s : State) (es : List Expr) : Option (List Value × State) :=
  match (Expr.evalAll es).run.run { s with records := [] } with
  | (.ok vs, t) => some (vs, t)
  | _ => none

/-- The place of the factory that a value refers to. -/
def State.factoryPlace? (s : State) (v : Value) : Option Nat :=
  match v with
  | .ref id => (factory? s v).map fun _ => id
  | _ => none

/-- An attempt to create a destination, which may succeed or fail. -/
structure Attempt where
  -- The place of the factory, if there is one.
  factory : Option Nat
  -- The reference to the store, unless the store is built.
  given : Option Value
  -- The store, or none for something that is no store.
  store : Option Properties
  -- Whether the headers and the providers have elements.
  isReady : Bool

/-- The attempt to create a destination from a store, headers, providers and a factory. -/
def Attempt.direct (s : State) (args : List Value) : Attempt where
  factory := s.factoryPlace? (args.getD 3 .null)
  given := some (args.getD 0 .null)
  store := s.store? (args.getD 0 .null)
  isReady := (!(args.getD 1 .null).isTruthy || (s.elements? (args.getD 1 .null)).isSome) &&
    args[2]?.all fun v => (s.elements? v).isSome

/-- The attempt to build a destination with a builder. -/
def Attempt.build (s : State) (b : Builder) : Attempt where
  factory := s.factoryPlace? (b.factory.elim .null .ref)
  given := none
  store := some (b.withAddress.draft.build s.resolve)
  isReady := true

/-- A call of a factory that the session makes itself. -/
structure OwnCall where
  factory : Nat
  -- The store, or none for something that is no store.
  store : Option Properties

/-- The attempt to create a destination that a call is. -/
def State.buildAttempt? (s : State) (method : Method) (self : Value) : Option Attempt :=
  match s.object? self, method with
  | some (.builder b), .build => some (.build s b)
  | _, _ => none

/-- The attempt to create a destination that an act is. -/
def State.attempt? (s : State) : Act → Option Attempt
  | .step (.create .destination args, _) => (s.evaluated? args).map fun (vs, t) => .direct t vs
  | .step (.call method on args, _) => (s.evaluated? (on :: args)).bind fun (vs, t) =>
    t.buildAttempt? method (vs.getD 0 .null)
  | _ => none

/-- The call of a factory that a call is. -/
def State.factoryCall? (s : State) (method : Method) (self : Value) (args : List Value) :
    Option OwnCall :=
  match s.factoryPlace? self, method with
  | some id, .proxyConfiguration => some ⟨id, s.store? (args.getD 0 .null)⟩
  | _, _ => none

/-- The call of a factory that an act is. -/
def State.ownCall? (s : State) : Act → Option OwnCall
  | .step (.call method on args, _) => (s.evaluated? (on :: args)).bind fun (vs, t) =>
    t.factoryCall? method (vs.getD 0 .null) vs.tail
  | _ => none

/-- What the factory at a place is told when something asks a factory about a store. -/
def told (id : Nat) (factory : Option Nat) (store : Option Properties) :
    List (Option Properties) :=
  if factory = some id then [store] else []

/-- Whether an attempt asks the factory at a place. -/
def Attempt.asks (a : Attempt) (id : Nat) : Bool := a.isReady && a.factory == some id

/-- What the factory at a place is asked about by an attempt. -/
def Attempt.told (a : Attempt) (id : Nat) : List (Option Properties) :=
  if a.isReady then Session.told id a.factory a.store else []

/-- What the factory at a place is asked about by a call of a factory. -/
def OwnCall.told (c : OwnCall) (id : Nat) : List (Option Properties) :=
  Session.told id (some c.factory) c.store

/-- What the factory at a place is asked about by an act. -/
def State.told (s : State) (act : Act) (id : Nat) : List (Option Properties) :=
  (s.attempt? act).elim [] (·.told id) ++ (s.ownCall? act).elim [] (·.told id)

/-- What the factory at a place was asked about so far. -/
def State.asked (s : State) (id : Nat) : List (Option Properties) :=
  (factory? s (.ref id)).elim [] (·.asked)

/-! ### What is not asked -/

/-- What the factories were asked is a matter of the objects. -/
theorem asked_congr (h : t.objects = s.objects) (id : Nat) : t.asked id = s.asked id := by
  simp only [State.asked, factory?, State.object?, h]

/-- What a factory was asked is noted in it. -/
theorem asked_of_object? {id : Nat} {f : Factory} (h : s.object? (.ref id) = some (.factory f)) :
    s.asked id = f.asked := by
  rw [State.asked, factory?, h]
  rfl

/-- States that follow without a factory being asked agree on what the factories were asked. -/
theorem asked_of_precedes (h : s.Precedes t false) (id : Nat) : t.asked id = s.asked id := by
  cases hs : s.object? (.ref id) with
  | none =>
    -- No object was here before, so nothing was asked; a factory that came here since is new.
    have hnothing : s.asked id = [] := by
      rw [State.asked, factory?, hs]
      rfl
    rw [hnothing]
    cases hf : factory? t (.ref id) with
    | none => rw [State.asked, hf]; rfl
    | some f =>
      have ho := object?_of_factory? hf
      rw [asked_of_object? ho]
      exact h.unasked rfl id f hs ho
  | some o =>
    -- Of the ways in which an object can change, only an asked factory has another list.
    obtain ⟨o', ht, hb⟩ := h.becomes hs
    cases hb with
    | same => simp only [State.asked, factory?, hs, ht]
    | factory _ _ hasking => cases hasking
    | _ => simp only [State.asked, factory?, hs, ht]

/-! ### What an attempt asks -/

/-- The place of a factory is where the factory is. -/
theorem factoryPlace?_eq_some {v : Value} {id : Nat} : s.factoryPlace? v = some id ↔
    v = .ref id ∧ ∃ f, s.object? (.ref id) = some (.factory f) := by
  constructor
  · intro h
    cases v with
    | ref i =>
      obtain ⟨f, hf, rfl⟩ := Option.map_eq_some_iff.1 h
      exact ⟨rfl, f, object?_of_factory? hf⟩
    | _ => cases h
  · rintro ⟨rfl, f, ho⟩
    rw [State.factoryPlace?, factory?, ho]
    rfl

/-- A builder is no factory. -/
theorem factoryPlace?_of_builder {v : Value} {b : Builder} (h : s.object? v = some (.builder b)) :
    s.factoryPlace? v = none := by
  cases v with
  | ref id =>
    rw [State.factoryPlace?, factory?, h]
    rfl
  | _ => rfl

/-- The factory that is asked notes the store, and no other factory does. -/
theorem asked_noted (s : State) (v : Value) (store : Option Properties) (id : Nat) :
    (s.noted v store).asked id = s.asked id ++ told id (s.factoryPlace? v) store := by
  unfold State.noted
  cases hf : factory? s v with
  | none =>
    -- Nobody notes anything.
    have hplace : s.factoryPlace? v = none := by
      cases v with
      | ref i => rw [State.factoryPlace?, hf]; rfl
      | _ => rfl
    rw [hplace]
    exact (List.append_nil _).symm
  | some f =>
    have ho := object?_of_factory? hf
    cases v with
    | ref i =>
      -- The factory at `i` notes the store; whether that is the one at `id` is the case split.
      have hlt : i < s.objects.length := (List.getElem?_eq_some_iff.1 ho).1
      rw [factoryPlace?_eq_some.2 ⟨rfl, f, ho⟩, told]
      show (s.update i _).asked id = _
      by_cases hi : i = id
      · subst hi
        have hset (g : Factory) : (s.update i (.factory g)).object? (.ref i) = some (.factory g) :=
          List.getElem?_set_self hlt
        rw [if_pos rfl, asked_of_object? ho, asked_of_object? (hset _)]
      · rw [if_neg (by simpa using hi), List.append_nil]
        simp only [State.asked, factory?, State.object?, State.update, List.getElem?_set_ne hi]
    | _ => cases ho

/-- What is asked at once and nothing more. -/
theorem asked_askFactory {v : Value} {store : Option Properties}
    {f : (Properties → Logged Failure (Option ProxyConfiguration)) → Action β}
    (hf : ∀ derive, Above (s.noted v store) (f derive) false) (id : Nat) :
    (stateAfter (askFactory v store >>= f) s).asked id =
      s.asked id ++ told id (s.factoryPlace? v) store := by
  rw [stateAfter_bind_of_ok (askFactory_run s v store), ← asked_noted]
  exact asked_of_precedes (hf _ _ (.refl _)) id

/-- A destination that is made asks its factory about its store. -/
theorem asked_makeDestination (store : Value) (headers providers : List Value) (factory : Value)
    (id : Nat) :
    (stateAfter (makeDestination store headers providers factory) s).asked id =
      s.asked id ++ told id (s.factoryPlace? factory) (s.store? store) := by
  rw [makeDestination, stateAfter_bind_of_ok (get_eq s)]
  -- Nobody but the factory is asked while the destination is made.
  refine asked_askFactory (fun derive => ?_) id
  cases hp : s.store? store with
  | none => exact .throw _
  | some p =>
    refine .bind (.perform _) fun proxy => .addDestination fun v hv => ?_
    cases hv
    exact (precedes_noted s factory (some p)).object?_eq (object?_of_store? hp) rfl

/-- The elements of a value are there, or it has none. -/
theorem requireElements_run (s : State) (v : Value) :
    ∃ r, (requireElements v).run.run s = (r, s) ∧ r.isOk = (s.elements? v).isSome := by
  rw [requireElements, bind_eq_of_ok (elementsOf_eq s v)]
  cases s.elements? v <;> exact ⟨_, rfl, rfl⟩

/-- Headers are given when they are falsy or have elements; looking at them changes nothing. -/
theorem headersGiven_run (s : State) (v : Value) :
    ∃ r, (headersGiven v).run.run s = (r, s) ∧
      r.isOk = (!v.isTruthy || (s.elements? v).isSome) := by
  unfold headersGiven
  cases v.isTruthy with
  | false => exact ⟨_, rfl, rfl⟩
  | true => exact requireElements_run s v

/-- Providers are given when they are left out or have elements; looking at them changes nothing. -/
theorem providersGiven_run (s : State) (v : Option Value) :
    ∃ r, (providersGiven v).run.run s = (r, s) ∧
      r.isOk = v.all fun v => (s.elements? v).isSome := by
  cases v with
  | none => exact ⟨_, rfl, rfl⟩
  | some v => exact requireElements_run s v

/-- A destination asks its factory about its store, unless its headers or its providers have no
elements. -/
theorem asked_create (s : State) (args : List Value) (id : Nat) :
    (stateAfter (create .destination args) s).asked id =
      s.asked id ++ (Attempt.direct s args).told id := by
  obtain ⟨headers, hheaders, hheadersOk⟩ := headersGiven_run s (args.getD 1 .null)
  obtain ⟨providers, hproviders, hprovidersOk⟩ := providersGiven_run s args[2]?
  rw [create, stateAfter_bind_of_ok (get_eq s), Attempt.told, Attempt.direct, ← hheadersOk,
    ← hprovidersOk]
  dsimp only
  -- The headers are read first, so a failure there hides the providers.
  cases headers with
  | error e =>
    rw [stateAfter_bind_of_error hheaders]
    exact (List.append_nil _).symm
  | ok headers =>
    rw [stateAfter_bind_of_ok hheaders]
    cases providers with
    | error e =>
      rw [stateAfter_bind_of_error hproviders]
      exact (List.append_nil _).symm
    | ok providers =>
      rw [stateAfter_bind_of_ok hproviders]
      exact asked_makeDestination ..

/-- A builder that changes stays a builder, so the factories stay where they are. -/
theorem factoryPlace?_update {i : Nat} {b : Builder} (h : s.object? (.ref i) = some (.builder b))
    (b' : Builder) (v : Value) :
    (s.update i (.builder b')).factoryPlace? v = s.factoryPlace? v := by
  cases v with
  | ref id => rw [State.factoryPlace?, State.factoryPlace?, factory?_update h]
  | _ => rfl

/-- A build asks the factory of the builder about the store that it builds. -/
theorem asked_buildDestination {i : Nat} {b : Builder}
    (h : s.object? (.ref i) = some (.builder b)) (id : Nat) :
    (stateAfter (buildDestination (.ref i) b) s).asked id =
      s.asked id ++ (Attempt.build s b).told id := by
  let s₁ := s.update i (.builder b.withAddress)
  -- Setting the address changes no container and asks nobody.
  have hsame : SameContainers s s₁ := .update h rfl rfl
  have hasked : s₁.asked id = s.asked id :=
    asked_of_precedes (State.precedes_update h (.builder b _)) id
  have hupdate : (update (.ref i) (.builder b.withAddress)).run.run s = (.ok (), s₁) := rfl
  rw [buildDestination, stateAfter_bind_of_ok hupdate, stateAfter_bind_of_ok (get_eq s₁),
    asked_askFactory, hasked, Builder.factory_withAddress, factoryPlace?_update h, hsame.resolve]
  · rfl
  · exact fun _ => .bind (.perform _) fun _ => .addDestination fun _ hv => by cases hv

/-! ### What an act asks -/

/-- A factory that is called is asked about the argument. -/
theorem asked_callFactory {i : Nat} {f : Factory} (h : s.object? (.ref i) = some (.factory f))
    (args : List Value) (id : Nat) :
    (stateAfter (call .proxyConfiguration (.ref i) args) s).asked id =
      s.asked id ++ (OwnCall.mk i (s.store? (args.getD 0 .null))).told id := by
  -- The call asks the factory first and adds what it derives afterwards.
  rw [call, stateAfter_bind_of_ok (get_eq s)]
  simp only [h]
  rw [asked_askFactory, factoryPlace?_eq_some.2 ⟨rfl, f, h⟩]
  · rfl
  · intro derive
    split
    · exact .bind (.perform _) fun _ => .bind (.addProxy _) fun _ => .pure _
    · exact .throw _

/-- A build is an attempt, a call of a factory tells it about its argument, and no other call asks
a factory. -/
theorem asked_call (s : State) (method : Method) (self : Value) (args : List Value) (id : Nat) :
    (stateAfter (call method self args) s).asked id =
      s.asked id ++ ((s.buildAttempt? method self).elim [] (·.told id) ++
        (s.factoryCall? method self args).elim [] (·.told id)) := by
  cases h : s.asksFactory method self with
  | false =>
    -- Neither a build nor a call of a factory: both sides add nothing.
    have hattempt : s.buildAttempt? method self = none := by
      unfold State.buildAttempt?
      split
      · rename_i ho
        simp [State.asksFactory, ho] at h
      · rfl
    have hown : s.factoryCall? method self args = none := by
      unfold State.factoryCall?
      split
      · rename_i hplace
        obtain ⟨rfl, f, ho⟩ := factoryPlace?_eq_some.1 hplace
        simp [State.asksFactory, ho] at h
      · rfl
    rw [hattempt, hown]
    refine (asked_of_precedes (precedes_call args fun h' => ?_) id).trans (List.append_nil _).symm
    rw [h] at h'
    cases h'
  | true =>
    -- The two ways to ask: a build, and a call of a factory.
    unfold State.asksFactory at h
    split at h
    · rename_i b ho
      cases self with
      | ref i =>
        simp only [State.buildAttempt?, State.factoryCall?, ho, factoryPlace?_of_builder ho,
          Option.elim_some, Option.elim_none, List.append_nil]
        rw [stateAfter, call_builder ho, callBuilder, bind_eq_of_ok (get_eq s)]
        exact (congrArg (State.asked · id) (stateAfter_bind_pure _ _ s)).trans
          (asked_buildDestination ho id)
      | _ => cases ho
    · rename_i f ho
      cases self with
      | ref i =>
        simp only [State.buildAttempt?, State.factoryCall?, ho,
          factoryPlace?_eq_some.2 ⟨rfl, f, ho⟩, Option.elim_some, Option.elim_none,
          List.nil_append]
        exact asked_callFactory ho args id
      | _ => cases ho
    · cases h

/-- A call that is an attempt is a build of a builder. -/
theorem buildAttempt?_eq_some {method : Method} {self : Value} {a : Attempt}
    (h : s.buildAttempt? method self = some a) : ∃ i b, self = .ref i ∧ method = .build ∧
      s.object? (.ref i) = some (.builder b) ∧ a = .build s b := by
  unfold State.buildAttempt? at h
  split at h
  · rename_i b hb
    cases h
    cases self with
    | ref i => exact ⟨i, b, rfl, rfl, hb, rfl⟩
    | _ => cases hb
  · cases h

/-- Expressions have values exactly when they evaluate to them. -/
theorem evaluated?_eq_some {es : List Expr} {vs : List Value} :
    s.evaluated? es = some (vs, t) ↔ Evaluates s es vs t := by
  unfold State.evaluated? Evaluates
  rcases (Expr.evalAll es).run.run { s with records := [] } with ⟨r, u⟩
  constructor
  · intro h
    cases r with
    | ok _ =>
      cases h
      rfl
    | error _ => cases h
  · intro h
    cases h
    rfl

/-- Evaluating expressions asks no factory. -/
theorem asked_evaluated {es : List Expr} {vs : List Value} (h : s.evaluated? es = some (vs, t))
    (id : Nat) : t.asked id = s.asked id :=
  asked_of_precedes (evaluated?_eq_some.1 h).precedes id

/-- Where expressions have no values, evaluating them fails. -/
theorem evaluated?_eq_none {es : List Expr} (h : s.evaluated? es = none) :
    ∃ e t, (Expr.evalAll es).run.run { s with records := [] } = (.error e, t) := by
  rcases hr : (Expr.evalAll es).run.run { s with records := [] } with ⟨r, t⟩
  cases r with
  | ok vs =>
    rw [evaluated?_eq_some.2 hr] at h
    cases h
  | error e => exact ⟨e, t, rfl⟩

/-- A step that creates no destination and calls no factory asks none. -/
theorem asked_of_calm {x : Step} (h : x.asksFactory { s with records := [] } = false) (id : Nat) :
    (stateAfter x.perform { s with records := [] }).asked id = s.asked id := by
  have hs : s.Precedes { s with records := [] } false := .of_objects rfl
  refine asked_of_precedes (hs.trans (precedes_perform x fun h' => ?_)) id
  rw [h] at h'
  cases h'

/-- A destination that a step creates asks its factory, unless evaluating its arguments fails. -/
theorem asked_perform_create (s : State) (args : List Expr) (name : Option String) (id : Nat) :
    (stateAfter (Step.create .destination args).perform { s with records := [] }).asked id =
      s.asked id ++ s.told (.step (.create .destination args, name)) id := by
  simp only [State.told, State.attempt?, State.ownCall?, Option.elim_none, List.append_nil]
  cases hargs : s.evaluated? args with
  | none =>
    obtain ⟨e, t, hrun⟩ := evaluated?_eq_none hargs
    -- The arguments fail before the factory is reached.
    have hs : s.Precedes { s with records := [] } false := .of_objects rfl
    have ht : s.Precedes t false := hs.trans ((Above.evalAll _ args).precedes hrun)
    rw [Step.perform, stateAfter_bind_of_error hrun, asked_of_precedes ht]
    exact (List.append_nil _).symm
  | some r =>
    obtain ⟨vs, t⟩ := r
    have hrun := evaluated?_eq_some.1 hargs
    rw [Step.perform, stateAfter_bind_of_ok hrun, stateAfter_bind_pure, asked_create,
      asked_evaluated hargs]
    rfl

/-- A call in a step asks what it asks on the values of its arguments, unless evaluating those
fails. -/
theorem asked_perform_call (s : State) (method : Method) (on : Expr) (args : List Expr)
    (name : Option String) (id : Nat) :
    (stateAfter (Step.call method on args).perform { s with records := [] }).asked id =
      s.asked id ++ s.told (.step (.call method on args, name)) id := by
  cases hargs : s.evaluated? (on :: args) with
  | none =>
    obtain ⟨e, t, hrun⟩ := evaluated?_eq_none hargs
    have hcalm : (Step.call method on args).asksFactory { s with records := [] } = false := by
      rw [Step.asksFactory, hrun]
    rw [asked_of_calm hcalm]
    simp [State.told, State.attempt?, State.ownCall?, hargs]
  | some r =>
    obtain ⟨vs, t⟩ := r
    have hrun := evaluated?_eq_some.1 hargs
    -- The first of the values is what the method is called on.
    obtain ⟨self, rest, rfl⟩ := hrun.cons
    rw [stateAfter, call_of_perform hrun]
    refine (asked_call t method self rest id).trans ?_
    rw [asked_evaluated hargs]
    simp [State.told, State.attempt?, State.ownCall?, hargs]

/-- What the action of a step asks. -/
theorem asked_perform (s : State) (x : Step) (name : Option String) (id : Nat) :
    (stateAfter x.perform { s with records := [] }).asked id =
      s.asked id ++ s.told (.step (x, name)) id := by
  cases x with
  | create kind args =>
    cases kind with
    | destination => exact asked_perform_create s args name id
    | _ => exact (asked_of_calm rfl id).trans (List.append_nil _).symm
  | call method on args => exact asked_perform_call s method on args name id
  | _ => exact (asked_of_calm rfl id).trans (List.append_nil _).symm

/-- An act asks a factory what the attempt or the call that it is asks it, and nothing else. -/
theorem asked_done (s : State) (act : Act) (id : Nat) :
    (s.done act).asked id = s.asked id ++ s.told act id := by
  cases act with
  | step command =>
    obtain ⟨x, name⟩ := command
    rw [← asked_perform s x name id]
    exact asked_congr (objects_step s (x, name)) id
  | report e width =>
    rw [asked_of_precedes (precedes_report s e width)]
    exact (List.append_nil _).symm

/-! ### What many acts ask -/

/-- An attempt asks a factory about its store or not at all. -/
theorem Attempt.told_eq (a : Attempt) (id : Nat) :
    a.told id = if a.asks id then [a.store] else [] := by
  cases hready : a.isReady <;> simp [Attempt.told, Attempt.asks, Session.told, hready]

/-- A call of a factory asks that factory about its argument. -/
theorem OwnCall.told_eq (c : OwnCall) (id : Nat) :
    c.told id = if c.factory = id then [c.store] else [] := by
  simp [OwnCall.told, Session.told]

/-- No act is an attempt and a call of a factory at once. -/
theorem ownCall?_of_attempt? {act : Act} {a : Attempt} (h : s.attempt? act = some a) :
    s.ownCall? act = none := by
  unfold State.attempt? at h
  split at h
  · rfl
  · rename_i method on args name
    obtain ⟨⟨vs, t⟩, hargs, h⟩ := Option.bind_eq_some_iff.1 h
    obtain ⟨i, b, hself, rfl, hb, -⟩ := buildAttempt?_eq_some h
    -- A builder is no factory, so the same step is no call of one.
    simp only [State.ownCall?, hargs, Option.bind_some, State.factoryCall?, hself,
      factoryPlace?_of_builder hb]
  · cases h

/-- An act that is an attempt asks what the attempt asks. -/
theorem told_of_attempt? {act : Act} {a : Attempt} (h : s.attempt? act = some a) (id : Nat) :
    s.told act id = if a.asks id then [a.store] else [] := by
  rw [State.told, h, ownCall?_of_attempt? h, ← a.told_eq]
  exact List.append_nil _

/-- An act that calls a factory asks what the call asks. -/
theorem told_of_ownCall? {act : Act} {c : OwnCall} (h : s.ownCall? act = some c) (id : Nat) :
    s.told act id = if c.factory = id then [c.store] else [] := by
  have hattempt : s.attempt? act = none := by
    cases ha : s.attempt? act with
    | none => rfl
    | some a =>
      rw [ownCall?_of_attempt? ha] at h
      cases h
  rw [State.told, h, hattempt, ← c.told_eq]
  rfl

/-- A factory was asked once by each attempt that asks it, and once by each call of the session. -/
theorem length_asked_doneAll (s : State) (acts : List Act) (id : Nat) :
    ((s.doneAll acts).asked id).length = (s.asked id).length +
      ((s.along State.attempt? acts).countP (·.asks id) +
        (s.along State.ownCall? acts).countP (·.factory == id)) := by
  -- By induction on the acts: what the first one asks is counted, and the rest starts after it.
  induction acts generalizing s with
  | nil => rfl
  | cons act rest ih =>
    have hattempt : ((s.attempt? act).elim [] (·.told id)).length =
        (s.attempt? act).toList.countP (·.asks id) := by
      cases s.attempt? act with
      | none => rfl
      | some a => simp [a.told_eq, List.countP_cons, apply_ite List.length]
    have hown : ((s.ownCall? act).elim [] (·.told id)).length =
        (s.ownCall? act).toList.countP (·.factory == id) := by
      cases s.ownCall? act with
      | none => rfl
      | some c => simp [c.told_eq, List.countP_cons, apply_ite List.length]
    rw [doneAll_cons, ih, asked_done, State.told, State.along, State.along, List.countP_append,
      List.countP_append, List.length_append, List.length_append, hattempt, hown]
    omega

end Egress.Session
