import Egress.Proofs.Builder.Rebuild
import Egress.Proofs.Session.Snapshot

/-!
# Calls on the builders of a session

A method that is called on a builder of a session makes one call of a history, with what its
arguments stand for at present. Afterwards the session holds the builder that the call makes, be it
that the call succeeds or fails. A build leaves the builder with an address, and
answers a destination or fails by the outcome of the build.

## Key results

- `object?_callBuilder`: what a call leaves in the place of a builder
- `object?_build`, `answer_build`, `built_of_ok`: what a build leaves there, and what it answers
-/

namespace Egress.Session

variable {α β ε : Type} {s : State}

/-- The call that a method with its arguments makes on a builder, unless it builds. -/
def State.builderCall? (s : State) (method : Method) (args : List Value) : Option Builder.Call :=
  let arg (i : Nat) : Value := args.getD i .null
  match method with
  | .property => some (.property (s.nameOf (arg 0)) (arg 1))
  | .removeProperty => some (.removeProperty (s.nameOf (arg 0)))
  | .get => some (.get (s.nameOf (arg 0)))
  | .header =>
    let name := match arg 0 with
      | .ref _ => s.resolve (arg 0)
      | v => v
    some (.header name (arg 1))
  | .headers => some (.headers (s.iteration (arg 0) none))
  | .headersUntil message => some (.headers (s.iteration (arg 0) (some message)))
  | .fixed h => some (.fixed h (arg 0))
  | .instanceName => some (.instanceName (s.resolve (arg 0)))
  | .headerProviders => some (.headerProviders (givesHeaders s) (args.map fun v =>
      if givesHeaders s v then v else s.resolve v))
  | _ => none

/-! ### Reads -/

/-- An action keeps every object in its place and may add others. -/
def Extends (x : Action α) : Prop := ∀ s, s.objects <+: (stateAfter x s).objects

/-- An object that is there stays in its place. -/
theorem Extends.object? {x : Action α} (hx : Extends x) {id : Nat} {o : Object}
    (h : s.object? (.ref id) = some o) : (stateAfter x s).object? (.ref id) = some o := by
  obtain ⟨more, hmore⟩ := hx s
  have hlt : id < s.objects.length := (List.getElem?_eq_some_iff.1 h).1
  show (stateAfter x s).objects[id]? = _
  rw [← hmore, List.getElem?_append_left hlt]
  exact h

namespace Extends

theorem pure (a : α) : Extends (pure a) := fun _ => List.prefix_rfl

theorem throw (e : Failure) : Extends (throw e : Action α) := fun _ => List.prefix_rfl

/-- A sequence extends the objects if both of its parts do. -/
theorem bind {x : Action α} {f : α → Action β} (hx : Extends x) (hf : ∀ a, Extends (f a)) :
    Extends (x >>= f) := by
  intro s
  rcases stateAfter_bind_cases x f s with h | ⟨a, h⟩
  · rw [h]
    exact hx s
  · rw [h]
    exact (hx s).trans (hf a _)

/-- An action may look at the state before it extends the objects. -/
theorem get_bind {f : State → Action β} (hf : ∀ t, Extends (f t)) : Extends (get >>= f) :=
  fun s => hf s s

/-- A result adds no objects. -/
theorem orFail (f : ε → Failure) (x : Except ε α) : Extends (orFail f x) := by
  cases x with
  | ok a => exact pure a
  | error e => exact throw (f e)

theorem add (o : Object) : Extends (add o) := fun _ => List.prefix_append _ _

/-- Extending the objects is inherited from the parts of a sequence. -/
theorem sequential : Sequential Extends := ⟨pure, bind, fun _ => add _⟩

/-- Reading an entry adds what is handed out. -/
theorem readEntry (entries : List (Value × Value)) (key conversion : Value) :
    Extends (readEntry entries key conversion) :=
  sequential.readEntry (fun _ => List.prefix_rfl) orFail entries key conversion

end Extends

/-! ### Calls -/

/-- The state after something was put into the place of a builder. -/
theorem object?_update_self {id : Nat} {o : Object} (h : s.object? (.ref id) = some o)
    (o' : Object) : (s.update id o').object? (.ref id) = some o' :=
  List.getElem?_set_self (List.getElem?_eq_some_iff.1 h).1

/-- What becomes of a call that a builder may refuse. -/
theorem keepBuilder_run {id : Nat} {b : Builder} (x : Except BuilderError Builder)
    (h : s.object? (.ref id) = some (.builder b)) : ∃ t,
    (keepBuilder (.ref id) x).run.run s = ((match (b.unlessRefused x).2 with
        | none => .ok (.self (.ref id))
        | some e => .error (.builder e)), t) ∧
      t.object? (.ref id) = some (.builder (b.unlessRefused x).1) := by
  cases x with
  | error e => exact ⟨s, rfl, h⟩
  | ok b' => exact ⟨_, rfl, object?_update_self h _⟩

/-- What becomes of a call with headers that something gives. -/
theorem takeHeaders_run {id : Nat} {b : Builder} (given : Iteration)
    (h : s.object? (.ref id) = some (.builder b)) : ∃ t,
    (takeHeaders (.ref id) b given).run.run s = ((match given.failure? with
        | none => .ok (.self (.ref id))
        | some e => .error (.builder e)), t) ∧
      t.object? (.ref id) = some (.builder (b.addHeaders given)) := by
  cases given with
  | refused typeName =>
    -- Without elements nothing is added.
    have hsame : b.addHeaders (.refused typeName) = b := by
      simp [Builder.addHeaders, Iteration.items]
    exact ⟨s, rfl, by rw [hsame, h]⟩
  | complete items => exact ⟨_, rfl, object?_update_self h _⟩
  | broken items message => exact ⟨_, rfl, object?_update_self h _⟩

/-- A method makes its call with what its arguments stand for, keeps what becomes of the builder and
fails when the call does. -/
theorem callBuilder_run {id : Nat} {b : Builder} {c : Builder.Call} {method : Method}
    {args : List Value} (h : s.object? (.ref id) = some (.builder b)) (hget : method ≠ .get)
    (hc : s.builderCall? method args = some c) : ∃ t,
    (callBuilder (.ref id) b method args).run.run s = ((match (b.call c).2 with
        | none => .ok (.self (.ref id))
        | some e => .error (.builder e)), t) ∧
      t.object? (.ref id) = some (.builder (b.call c).1) := by
  rw [callBuilder, bind_eq_of_ok (get_eq s)]
  -- Grouped by what the builder is told: to keep a result, to keep a builder, to take headers.
  cases method with
  | get => exact absurd rfl hget
  | property | removeProperty =>
    cases hc
    dsimp only
    rw [bind_eq_of_ok (by rfl)]
    exact keepBuilder_run _ h
  | header | fixed | headerProviders =>
    cases hc
    exact keepBuilder_run _ h
  | instanceName =>
    cases hc
    exact keepBuilder_run (.ok _) h
  | headers | headersUntil =>
    cases hc
    exact takeHeaders_run _ h
  | _ => cases hc

/-- After a method was called on a builder of a session, the session holds what the call makes of
the builder. -/
theorem object?_callBuilder {id : Nat} {b : Builder} {c : Builder.Call} {method : Method}
    {args : List Value} (h : s.object? (.ref id) = some (.builder b))
    (hc : s.builderCall? method args = some c) :
    (stateAfter (callBuilder (.ref id) b method args) s).object? (.ref id) =
      some (.builder (b.call c).1) := by
  -- A get answers an entry and keeps the builder; the other calls keep what becomes of it.
  by_cases hget : method = .get
  · subst hget
    cases hc
    have hkept : Extends (callBuilder (.ref id) b .get args) :=
      Extends.get_bind fun _ => Extends.bind (Extends.readEntry _ _ _) fun _ => Extends.pure _
    exact hkept.object? h
  · obtain ⟨t, hrun, ht⟩ := callBuilder_run h hget hc
    rw [stateAfter, hrun]
    exact ht

/-! ### Builds -/

/-- A builder that is replaced by another is no factory before or after. -/
theorem factory?_update {id : Nat} {b : Builder} (h : s.object? (.ref id) = some (.builder b))
    (b' : Builder) (v : Value) : factory? (s.update id (.builder b')) v = factory? s v := by
  cases v with
  | ref i =>
    by_cases hi : id = i
    · subst hi
      rw [factory?, factory?, object?_update_self h, h]
    · simp [factory?, State.object?, State.update, List.getElem?_set_ne hi]
  | _ => rfl

/-- Asking a factory leaves the builders in their places. -/
theorem object?_noted {id : Nat} {b : Builder} (h : s.object? (.ref id) = some (.builder b))
    (v : Value) (store : Option Properties) :
    (s.noted v store).object? (.ref id) = some (.builder b) := by
  unfold State.noted
  split
  · rename_i f hf
    have ho := object?_of_factory? hf
    cases v with
    | ref i =>
      -- A builder and a factory are not in the same place.
      have hi : i ≠ id := by
        rintro rfl
        cases h.symm.trans ho
      show (s.objects.set i _)[id]? = _
      rw [List.getElem?_set_ne hi]
      exact h
    | _ => cases ho
  · exact h

/-- Runs that agree go on alike. -/
theorem bind_run_congr {x y : Action α} {f : α → Action β} {t : State}
    (h : x.run.run s = y.run.run t) : (x >>= f).run.run s = (y >>= f).run.run t := by
  show (x.run >>= ExceptT.bindCont f).run s = (y.run >>= ExceptT.bindCont f).run t
  rw [StateT.run_bind, StateT.run_bind, h]

/-- What remains of a build when the address is set and the way to derive is known. -/
def finishBuild (built : Logged Failure Destination) : Action Answer := do
  let d ← perform built
  let v ← addDestination d none
  return .value v

/-- A build sets the address and goes on with its outcome, in a session that shows the same. -/
theorem callBuilder_build {id : Nat} {b : Builder} (args : List Value)
    (h : s.object? (.ref id) = some (.builder b)) :
    ∃ t built, t.object? (.ref id) = some (.builder b.withAddress) ∧ SameContainers s t ∧
      built.result = b.outcome s ∧
      (callBuilder (.ref id) b .build args).run.run s = (finishBuild built).run.run t := by
  have hset : (s.update id (.builder b.withAddress)).object? (.ref id) =
      some (.builder b.withAddress) := object?_update_self h _
  let s₁ := s.update id (.builder b.withAddress)
  let v : Value := b.factory.elim .null .ref
  let store := b.withAddress.draft.build s.resolve
  have hsame : SameContainers s s₁ := .update h rfl rfl
  -- The address is set before the factory is asked, so the factory is looked up in the new state.
  have hbuild : (buildDestination (.ref id) b).run.run s = (do
      let d ← perform (b.withAddress.build s.resolve (Factory.derive (factory? s v)))
      addDestination d none).run.run (s₁.noted v (some store)) := by
    rw [buildDestination, bind_eq_of_ok (by rfl), bind_eq_of_ok (get_eq s₁),
      Builder.factory_withAddress, bind_eq_of_ok (askFactory_run ..), factory?_update h,
      hsame.resolve]
  refine ⟨_, _, object?_noted hset v (some store), hsame.trans (.noted _ _ _), rfl, ?_⟩
  rw [callBuilder, bind_eq_of_ok (get_eq s)]
  dsimp only
  rw [bind_run_congr hbuild, bind_assoc, finishBuild]

namespace Extends

/-- Going on with a result adds no objects. -/
theorem perform (x : Logged Failure α) : Extends (Session.perform x) :=
  bind (fun _ => List.prefix_rfl) fun _ => orFail _ _

/-- A destination is added with its parts. -/
theorem addDestination (d : Destination) : Extends (Session.addDestination d none) :=
  bind (add _) fun _ => bind (sequential.addProxy _) fun _ => add _

end Extends

/-- After a build, whether it succeeds or fails, the session holds the builder with an address. -/
theorem object?_build {id : Nat} {b : Builder} {args : List Value}
    (h : s.object? (.ref id) = some (.builder b)) :
    (stateAfter (callBuilder (.ref id) b .build args) s).object? (.ref id) =
      some (.builder b.withAddress) := by
  obtain ⟨t, built, hobject, _, _, hrun⟩ := callBuilder_build args h
  have hfinish : Extends (finishBuild built) :=
    .bind (.perform built) fun d => .bind (.addDestination d) fun _ => .pure _
  rw [stateAfter, hrun]
  exact hfinish.object? hobject

/-- A build answers a new destination with objects of its own, or fails, by its outcome. -/
theorem answer_build {id : Nat} {b : Builder} {args : List Value}
    (h : s.object? (.ref id) = some (.builder b)) :
    (∀ e, b.outcome s = .error e →
      ((callBuilder (.ref id) b .build args).run.run s).1 = .error e) ∧
    ∀ d, b.outcome s = .ok d → ∃ v t p c,
      (callBuilder (.ref id) b .build args).run.run s = (.ok (.value v), t) ∧
        t.object? v = some (.destination d p c) ∧ t.Linked d p c := by
  obtain ⟨t, built, _, _, hresult, hrun⟩ := callBuilder_build args h
  rw [hrun, ← hresult, finishBuild]
  -- The outcome decides whether the destination is reached.
  refine ⟨fun e he => ?_, fun d hd => ?_⟩
  · have hperform : (perform built).run.run t =
        (.error e, { t with records := t.records ++ built.records }) := by
      rw [perform, bind_eq_of_ok (by rfl), he]
      rfl
    rw [bind_eq_of_error hperform]
  · have hperform : (perform built).run.run t =
        (.ok d, { t with records := t.records ++ built.records }) := by
      rw [perform, bind_eq_of_ok (by rfl), hd]
      rfl
    have hmakes :
        Makes d (addDestination d none) { t with records := t.records ++ built.records } :=
      Makes.addDestination fun v hv => nomatch hv
    obtain ⟨_, _, p, c, hadd, _, ho⟩ := hmakes.made
    refine ⟨_, _, p, c, ?_, ho⟩
    rw [bind_eq_of_ok hperform, bind_eq_of_ok hadd]
    rfl

/-- A destination that a build answers is its outcome. -/
theorem built_of_ok {id : Nat} {b : Builder} {args : List Value} {v : Value} {t : State}
    (h : s.object? (.ref id) = some (.builder b))
    (hrun : (callBuilder (.ref id) b .build args).run.run s = (.ok (.value v), t)) :
    ∃ d p c, b.outcome s = .ok d ∧ t.object? v = some (.destination d p c) ∧ t.Linked d p c := by
  obtain ⟨hfails, hsucceeds⟩ := @answer_build s id b args h
  -- An outcome that failed contradicts the answer.
  cases houtcome : b.outcome s with
  | error e =>
    have herror := hfails e houtcome
    rw [hrun] at herror
    cases herror
  | ok d =>
    obtain ⟨w, u, p, c, hrun', hd⟩ := hsucceeds d houtcome
    rw [hrun] at hrun'
    cases hrun'
    exact ⟨d, p, c, rfl, hd⟩

end Egress.Session
