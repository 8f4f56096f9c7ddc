import Egress.Proofs.Builder.Contents
import Egress.Proofs.Session.Placement
import Egress.Proofs.Session.Steps

/-!
# Snapshots

A store or a destination is a snapshot when everything in it is plain: names and values made of
scalars and containers, headers with texts. `MadeOfPlain s id` says that the object at a place was
made from plain values: whatever containers the values were when the object was made, it is a
snapshot since then (`snapshot_of_madeOfPlain`), because the values were copied and frozen on the
way in.
-/

namespace Egress

/-- Whether all names and values of a store are plain. -/
def Properties.isPlain (p : Properties) : Bool := Value.arePlainEntries p.entries

/-- Whether all properties of a destination are plain and all its headers have texts. -/
def Destination.isPlain (d : Destination) : Bool :=
  d.properties.isPlain && d.headers.all Value.isTextHeader

/-- A store is plain when the values that it was made of are. -/
theorem Properties.isPlain_ofEntries (entries : List (Value × Value)) :
    (Properties.ofEntries entries).isPlain = Value.arePlainEntries entries :=
  Value.arePlainEntries_freezeEntries entries

/-- The names of a plain store are plain. -/
theorem Properties.isPlain_names {p : Properties} (h : p.isPlain) :
    (Value.seq .mutable p.names).isPlain := by
  show Value.areAllPlain p.names
  rw [Value.areAllPlain_iff]
  intro v hv
  obtain ⟨e, he, rfl⟩ := List.mem_map.mp hv
  exact (Value.arePlainEntries_iff.mp h e he).1

/-- A plain destination has plain properties. -/
theorem Destination.isPlain_properties {d : Destination} (h : d.isPlain) :
    d.properties.isPlain := by
  unfold Destination.isPlain at h
  rw [Bool.and_eq_true] at h
  exact h.1

namespace Session

variable {s t : State}

/-- Whether an object is a store or a destination that is plain. -/
def Object.isSnapshot : Object → Bool
  | .properties p => p.isPlain
  | .destination d _ _ => d.isPlain
  | _ => false

/-- The object at a place is a snapshot, and a destination refers to its own objects. -/
structure State.Snapshot (s : State) (id : Nat) (o : Object) : Prop where
  -- The object is at the place.
  object : s.object? (.ref id) = some o
  plain : o.isSnapshot
  -- It refers to its own objects.
  linked : ∀ d p c, o = .destination d p c → s.Linked d p c

/-- A snapshot is among the objects that never change. -/
theorem Object.isLasting_of_isSnapshot {o : Object} (h : o.isSnapshot) : o.isLasting := by
  cases o <;> first | rfl | cases h

/-- A snapshot stays what it is. -/
theorem State.Snapshot.later {id : Nat} {o : Object} (h : s.Snapshot id o)
    (hst : s.Precedes t) : t.Snapshot id o where
  object := hst.object?_eq h.object (Object.isLasting_of_isSnapshot h.plain)
  plain := h.plain
  linked d p c ho := hst.linked_of_linked (h.linked d p c ho)

/-! ## How snapshots are made -/

/-- The values of the expressions of a step, and the state in which they are used. -/
def Evaluates (s : State) (es : List Expr) (vs : List Value) (t : State) : Prop :=
  (Expr.evalAll es).run.run { s with records := [] } = (.ok vs, t)

/-- Evaluating expressions leads to a later state. -/
theorem Evaluates.precedes {asking : Bool} {es : List Expr} {vs : List Value}
    (h : Evaluates s es vs t) : s.Precedes t asking := by
  have hs : s.Precedes { s with records := [] } asking := .of_objects rfl
  exact hs.trans ((Above.evalAll _ es).precedes h)

/-- The store or destination at a place was made from property names and values that were plain at
the time, and from headers with texts. -/
inductive MadeOfPlain : State → Nat → Prop where
  -- A store was made from a dictionary.
  | store {s t : State} {args : List Expr} {vs : List Value} {name : Option String} {id : Nat}
      (hargs : Evaluates s args vs t) (hplain : (t.resolve (vs.getD 0 .null)).isPlain)
      (hid : (step s (.create .properties args, name)).answer = .value (.ref id)) :
      MadeOfPlain (step s (.create .properties args, name)).state id
  -- A store was built from a draft.
  | draft {s t : State} {on : Expr} {args : List Expr} {v : Value} {vs : List Value} {d : Draft}
      {name : Option String} {id : Nat} (hargs : Evaluates s (on :: args) (v :: vs) t)
      (hdraft : t.object? v = some (.draft d))
      (hplain : ∀ e ∈ d.entries, e.1.isPlain ∧ (t.resolve e.2).isPlain)
      (hid : (step s (.call .build on args, name)).answer = .value (.ref id)) :
      MadeOfPlain (step s (.call .build on args, name)).state id
  | builder {s t : State} {on : Expr} {args : List Expr} {v : Value} {vs : List Value}
      {b : Builder} {name : Option String} {id : Nat}
      (hargs : Evaluates s (on :: args) (v :: vs) t)
      (hbuilder : t.object? v = some (.builder b))
      (hplain : ∀ e ∈ b.draft.entries, e.1.isPlain ∧ (t.resolve e.2).isPlain)
      (hheaders : ∀ h ∈ b.headers, h.isTextHeader)
      (hid : (step s (.call .build on args, name)).answer = .value (.ref id)) :
      MadeOfPlain (step s (.call .build on args, name)).state id
  -- A destination was made from a store and headers.
  | destination {s t : State} {args : List Expr} {vs : List Value} {name : Option String}
      {id i : Nat} (hargs : Evaluates s args vs t) (hstore : MadeOfPlain s i)
      (hi : vs.getD 0 .null = .ref i)
      (hheaders : ∀ hs, t.elements? (vs.getD 1 .null) = some hs → ∀ h ∈ hs, h.isTextHeader)
      (hid : (step s (.create .destination args, name)).answer = .value (.ref id)) :
      MadeOfPlain (step s (.create .destination args, name)).state id
  | part {s : State} {id i : Nat} {d : Destination} {c : Value} (h : MadeOfPlain s id)
      (hd : s.objects[id]? = some (.destination d (.ref i) c)) : MadeOfPlain s i
  | later {s : State} {id : Nat} (h : MadeOfPlain s id) (command : Step × Option String) :
      MadeOfPlain (step s command).state id

/-! ## What is made is a snapshot -/

/-- A store that is made of plain entries is plain. -/
theorem create_properties_ok {vs : List Value} {v : Value}
    (hplain : (s.resolve (vs.getD 0 .null)).isPlain)
    (h : (create .properties vs).run.run s = (.ok v, t)) :
    ∃ p, p.isPlain ∧ t.object? v = some (.properties p) := by
  cases h
  refine ⟨_, ?_, s.object?_add_self _⟩
  rw [Properties.isPlain_ofEntries]
  exact Value.arePlainEntries_entries hplain

/-- The store that a draft makes of plain values is plain. -/
theorem isPlain_build {d : Draft} {look : Value → Value}
    (h : ∀ e ∈ d.entries, e.1.isPlain ∧ (look e.2).isPlain) : (d.build look).isPlain := by
  unfold Draft.build
  rw [Properties.isPlain_ofEntries, Value.arePlainEntries_iff]
  intro e he
  obtain ⟨e₀, he₀, rfl⟩ := List.mem_map.mp he
  exact h e₀ he₀

/-! ### Builders -/

/-- Nothing that can be seen through references has changed. -/
structure SameContainers (s t : State) : Prop where
  -- There are as many objects.
  length : t.objects.length = s.objects.length
  content : ∀ id, t.content? id = s.content? id

namespace SameContainers

theorem refl (s : State) : SameContainers s s := ⟨rfl, fun _ => rfl⟩

theorem trans {u : State} (h : SameContainers s t) (h' : SameContainers t u) :
    SameContainers s u :=
  ⟨h'.length.trans h.length, fun id => (h'.content id).trans (h.content id)⟩

/-- Values show alike where the containers are the same. -/
theorem resolveWithin (h : SameContainers s t) (depth : Nat) :
    t.resolveWithin depth = s.resolveWithin depth := by
  induction depth with
  | zero => rfl
  | succ depth ih =>
    funext v
    simp only [State.resolveWithin, ih, h.content]

/-- Values show alike where the containers are the same. -/
theorem resolve (h : SameContainers s t) : t.resolve = s.resolve := by
  funext v
  show t.resolveWithin t.objects.length v = s.resolveWithin s.objects.length v
  rw [h.length, h.resolveWithin]

/-- An object that is no container is replaced by another one. -/
theorem update {id : Nat} {o o' : Object} (ho : s.objects[id]? = some o)
    (hc : o.isContainer = false) (hc' : o'.isContainer = false) :
    SameContainers s (s.update id o') := by
  refine ⟨List.length_set, fun i => ?_⟩
  by_cases hi : id = i
  · subst hi
    have hlt := (List.getElem?_eq_some_iff.mp ho).1
    rw [content?_eq_none ho hc, content?_eq_none (o := o') _ hc']
    simp [State.update, hlt]
  · simp [State.content?, State.update, List.getElem?_set_ne hi]

/-- Updating something that is no container keeps the containers. -/
theorem update_ok {v : Value} {o o' : Object} {a : Unit} (ho : s.object? v = some o)
    (hc : o.isContainer = false) (hc' : o'.isContainer = false)
    (h : (Session.update v o').run.run s = (.ok a, t)) : SameContainers s t := by
  cases v with
  | ref id =>
    cases h
    exact update ho hc hc'
  | _ => cases ho

/-- A factory that is asked is no container. -/
theorem noted (s : State) (v : Value) (store : Option Properties) :
    SameContainers s (s.noted v store) := by
  unfold State.noted
  split
  · rename_i f hf
    have ho := object?_of_factory? hf
    cases v with
    | ref id => exact update ho rfl rfl
    | _ => cases ho
  · exact refl s

end SameContainers

/-- Going on with a result leaves the objects as they are. -/
theorem perform_ok {α : Type} {x : Logged Failure α} {a : α}
    (h : (perform x).run.run s = (.ok a, t)) : x.result = .ok a ∧ t.objects = s.objects := by
  obtain ⟨_, u, hw, h⟩ := bind_ok h
  cases hw
  obtain ⟨hx, rfl⟩ := orFail_ok h
  exact ⟨hx, rfl⟩

/-- The default address is plain, too. -/
theorem forall_mem_withAddress {b : Builder}
    (h : ∀ e ∈ b.draft.entries, e.1.isPlain ∧ (s.resolve e.2).isPlain) :
    ∀ e ∈ b.withAddress.draft.entries, e.1.isPlain ∧ (s.resolve e.2).isPlain := by
  unfold Builder.withAddress
  split
  · exact h
  -- The default address is a text.
  · have haddress : (s.resolve (.text defaultAddress)).isPlain := by
      rw [resolve_of_isPlain s rfl]
      rfl
    exact Value.forall_mem_putEntry (P := (·.isPlain)) (Q := fun v => (s.resolve v).isPlain) h rfl
      haddress

/-- A build from plain properties and headers of texts gives a plain destination. -/
theorem buildDestination_ok {self v : Value} {b : Builder} (hb : s.object? self = some (.builder b))
    (hplain : ∀ e ∈ b.draft.entries, e.1.isPlain ∧ (s.resolve e.2).isPlain)
    (hheaders : ∀ h ∈ b.headers, h.isTextHeader)
    (h : (buildDestination self b).run.run s = (.ok v, t)) :
    ∃ d p c, d.isPlain ∧ t.object? v = some (.destination d p c) ∧ t.Linked d p c := by
  -- The build is the address, the look at the state, the factory, and the destination that is
  -- added.
  obtain ⟨_, s₁, hu, h⟩ := bind_ok h
  obtain ⟨_, _, hget, h⟩ := bind_ok h
  cases hget
  obtain ⟨derive, s₂, ha, h⟩ := bind_ok h
  obtain ⟨d, s₃, hd, h⟩ := bind_ok h
  have hsame : SameContainers s s₁ := SameContainers.update_ok hb rfl rfl hu
  obtain ⟨_, _, hbuilt⟩ := Builder.build_eq_ok.1 (perform_ok hd).1
  -- The builder was plain before the address was set, and the address is a text.
  have hd : d.isPlain := by
    unfold Destination.isPlain
    rw [hbuilt, hsame.resolve, Bool.and_eq_true, List.all_eq_true]
    rw [Builder.headers_withAddress]
    exact ⟨isPlain_build (forall_mem_withAddress hplain), hheaders⟩
  have hmakes : Makes d (addDestination d none) s₃ := Makes.addDestination fun v hv => by cases hv
  obtain ⟨_, _, p, c, hrun, -, ho, hl⟩ := hmakes.made
  rw [hrun] at h
  cases h
  exact ⟨d, p, c, hd, ho, hl⟩

/-! ### Destinations -/

/-- The elements are read off the state. -/
theorem elementsOf_eq (s : State) (v : Value) :
    (elementsOf v).run.run s = (.ok (s.elements? v), s) := rfl

/-- Elements that are required are there, and the state stays. -/
theorem requireElements_ok {v : Value} {items : List Value}
    (h : (requireElements v).run.run s = (.ok items, t)) : s.elements? v = some items ∧ t = s := by
  obtain ⟨r, _, hr, h⟩ := bind_ok h
  -- Reading elements leaves the state, and so does the check.
  rw [elementsOf_eq] at hr
  cases hr
  cases hv : s.elements? v with
  | none =>
    rw [hv] at h
    cases h
  | some items' =>
    rw [hv] at h
    obtain ⟨rfl, rfl⟩ := pure_ok h
    exact ⟨rfl, rfl⟩

/-- Headers are the elements of what is given, or none. -/
theorem headersGiven_ok {v : Value} {headers : List Value}
    (h : (headersGiven v).run.run s = (.ok headers, t)) :
    (headers = [] ∨ s.elements? v = some headers) ∧ t = s := by
  unfold headersGiven at h
  split at h
  · obtain ⟨hv, rfl⟩ := requireElements_ok h
    exact ⟨.inr hv, rfl⟩
  · obtain ⟨rfl, rfl⟩ := pure_ok h
    exact ⟨.inl rfl, rfl⟩

/-- Reading the providers leaves the state as it is. -/
theorem providersGiven_ok {v : Option Value} {providers : List Value}
    (h : (providersGiven v).run.run s = (.ok providers, t)) : t = s := by
  cases v with
  | none => exact (pure_ok h).2
  | some v => exact (requireElements_ok h).2

/-- A destination that is made with a store refers to that very store. -/
theorem addDestination_ok {d : Destination} {store v : Value}
    (h : (addDestination d (some store)).run.run s = (.ok v, t)) :
    ∃ c, t.object? v = some (.destination d store c) := by
  obtain ⟨_, _, hstore, h⟩ := bind_ok h
  cases hstore
  obtain ⟨c, u, _, h⟩ := bind_ok h
  cases h
  exact ⟨c, u.object?_add_self _⟩

/-- A destination has the store and the headers that it is given, and the proxy configuration that
its factory derives from the store. -/
theorem makeDestination_ok {store factory v : Value} {headers providers : List Value}
    (h : (makeDestination store headers providers factory).run.run s = (.ok v, t)) :
    ∃ d c, s.object? store = some (.properties d.properties) ∧ d.headers = headers ∧
      (Factory.derive (factory? s factory) d.properties).result = .ok d.proxy ∧
      t.object? v = some (.destination d store c) ∧ t.Linked d store c := by
  obtain ⟨_, _, hget, h⟩ := bind_ok h
  cases hget
  obtain ⟨derive, s₁, ha, h⟩ := bind_ok h
  have hs₁ := (Above.askFactory factory _).precedes ha
  rw [askFactory_run] at ha
  obtain ⟨rfl⟩ := ha
  -- Without a store to ask about, nothing is made.
  cases hstore : s.store? store with
  | none =>
    rw [hstore] at h
    cases h
  | some p =>
    rw [hstore] at hs₁ h
    have hp := object?_of_store? hstore
    -- The store is where it was after the factory was asked, so the destination is linked to it.
    obtain ⟨proxy, s₂, hperf, h⟩ := bind_ok h
    obtain ⟨hproxy, hs₂⟩ := perform_ok hperf
    have hs : s.Precedes s₂ := hs₁.trans (.of_objects hs₂)
    have hmakes : Makes ⟨p, headers, providers, proxy⟩
        (addDestination ⟨p, headers, providers, proxy⟩ (some store)) s₂ :=
      Makes.addDestination fun v hv => by
        cases hv
        exact hs.object?_eq hp rfl
    obtain ⟨_, _, q, c, hrun, -, ho, hl⟩ := hmakes.made
    rw [hrun] at h
    cases h
    obtain ⟨c', ho'⟩ := addDestination_ok hrun
    cases ho.symm.trans ho'
    exact ⟨_, c, hp, rfl, hproxy, ho, hl⟩

/-- A destination that is made of a plain store and of headers with texts is plain. -/
theorem create_destination_ok {vs : List Value} {v : Value}
    (hstore : ∀ p, s.object? (vs.getD 0 .null) = some (.properties p) → p.isPlain)
    (hheaders : ∀ hs, s.elements? (vs.getD 1 .null) = some hs → ∀ h ∈ hs, h.isTextHeader)
    (h : (create .destination vs).run.run s = (.ok v, t)) :
    ∃ d q c, d.isPlain ∧ t.object? v = some (.destination d q c) ∧ t.Linked d q c := by
  obtain ⟨_, _, hget, h₁⟩ := bind_ok h
  cases hget
  obtain ⟨headers, s₁, hgiven, h₂⟩ := bind_ok h₁
  obtain ⟨hh, rfl⟩ := headersGiven_ok hgiven
  obtain ⟨providers, s₂, hproviders, h₃⟩ := bind_ok h₂
  obtain rfl := providersGiven_ok hproviders
  -- The arguments only name the parts; the destination is what is made of them.
  obtain ⟨d, c, hp, rfl, _, hd, hl⟩ := makeDestination_ok h₃
  refine ⟨d, _, c, ?_, hd, hl⟩
  unfold Destination.isPlain
  rw [hstore _ hp, Bool.true_and, List.all_eq_true]
  rcases hh with hh | hh
  · rw [hh]
    simp
  · exact hheaders _ hh

/-! ### Every way of making -/

/-- A step that creates something does so with the values of its arguments. -/
theorem create_of_perform {kind : Kind} {args : List Expr} {vs : List Value} {v : Value} {u : State}
    (hargs : Evaluates s args vs t)
    (h : (Step.create kind args).perform.run.run { s with records := [] } = (.ok (.value v), u)) :
    (create kind vs).run.run t = (.ok v, u) := by
  rw [Step.perform, bind_eq_of_ok hargs] at h
  obtain ⟨w, u', hc, hp⟩ := bind_ok h
  obtain ⟨hw, rfl⟩ := pure_ok hp
  cases hw
  exact hc

/-- The values of an expression and of others after it. -/
theorem Evaluates.cons {e : Expr} {es : List Expr} {vs : List Value}
    (h : Evaluates s (e :: es) vs t) : ∃ v rest, vs = v :: rest := by
  rw [Evaluates, Expr.evalAll] at h
  obtain ⟨v, _, _, h⟩ := bind_ok h
  obtain ⟨rest, _, _, h⟩ := bind_ok h
  exact ⟨v, rest, (pure_ok h).1⟩

/-- A step that calls a method does so with the values of its arguments. -/
theorem call_of_perform {method : Method} {on : Expr} {args : List Expr} {v : Value}
    {vs : List Value} (hargs : Evaluates s (on :: args) (v :: vs) t) :
    (Step.call method on args).perform.run.run { s with records := [] } =
      (call method v vs).run.run t := by
  unfold Evaluates at hargs
  -- The receiver is evaluated first, then the arguments.
  rw [Expr.evalAll] at hargs
  obtain ⟨v', s₁, hon, h₁⟩ := bind_ok hargs
  obtain ⟨vs', s₂, hvs, h₂⟩ := bind_ok h₁
  obtain ⟨heq, rfl⟩ := pure_ok h₂
  cases heq
  rw [Step.perform, bind_eq_of_ok hon, bind_eq_of_ok hvs]

/-- A plain store is a snapshot. -/
theorem snapshot_of_properties {id : Nat} {p : Properties} (hp : p.isPlain)
    (ho : t.object? (.ref id) = some (.properties p)) : ∃ o, t.Snapshot id o :=
  ⟨_, ho, hp, fun _ _ _ h => by cases h⟩

/-- A plain destination that is linked to its parts is a snapshot. -/
theorem snapshot_of_destination {id : Nat} {d : Destination} {p c : Value} (hd : d.isPlain)
    (ho : t.object? (.ref id) = some (.destination d p c)) (hl : t.Linked d p c) :
    ∃ o, t.Snapshot id o :=
  ⟨_, ho, hd, fun _ _ _ h => by cases h; exact hl⟩

/-- What was made of plain values is a snapshot. -/
theorem snapshot_of_madeOfPlain {id : Nat} (h : MadeOfPlain s id) : ∃ o, s.Snapshot id o := by
  have after {t u : State} (hu : u.objects = t.objects) {id : Nat} (h : ∃ o, t.Snapshot id o) :
      ∃ o, u.Snapshot id o := by
    obtain ⟨o, ho⟩ := h
    exact ⟨o, ho.later (.of_objects hu)⟩
  -- By induction on how it was made. A destination made of a store relies on the store being a
  -- snapshot, and its parts rely on the destination being one.
  induction h with
  | store hargs hplain hid =>
    obtain ⟨u, hrun, hu⟩ := perform_of_answer hid
    obtain ⟨p, hp, ho⟩ := create_properties_ok hplain (create_of_perform hargs hrun)
    exact after hu (snapshot_of_properties hp ho)
  | draft hargs hdraft hplain hid =>
    obtain ⟨u, hrun, hu⟩ := perform_of_answer hid
    rw [call_of_perform hargs] at hrun
    obtain ⟨_, _, hget, h₁⟩ := bind_ok hrun
    cases hget
    rw [hdraft] at h₁
    cases h₁
    exact after hu (snapshot_of_properties (isPlain_build hplain) (State.object?_add_self _ _))
  | builder hargs hbuilder hplain hheaders hid =>
    obtain ⟨u, hrun, hu⟩ := perform_of_answer hid
    rw [call_of_perform hargs] at hrun
    obtain ⟨_, _, hget, h₁⟩ := bind_ok hrun
    cases hget
    rw [hbuilder] at h₁
    obtain ⟨_, _, hget, h₂⟩ := bind_ok h₁
    cases hget
    obtain ⟨v, u', hb, h₃⟩ := bind_ok h₂
    obtain ⟨hv, rfl⟩ := pure_ok h₃
    cases hv
    obtain ⟨d, p, c, hd, ho, hl⟩ := buildDestination_ok hbuilder hplain hheaders hb
    exact after hu (snapshot_of_destination hd ho hl)
  | @destination s t _ vs _ _ _ hargs hstore hi hheaders hid ih =>
    obtain ⟨u, hrun, hu⟩ := perform_of_answer hid
    obtain ⟨o, ho⟩ := ih
    -- The store is a snapshot of an earlier state, so it is as plain as it was.
    have hst : s.Precedes t := hargs.precedes
    have hplain (p : Properties) (hp : t.object? (vs.getD 0 .null) = some (.properties p)) :
        p.isPlain := by
      rw [hi, (ho.later hst).object] at hp
      cases hp
      exact ho.plain
    obtain ⟨d, p, c, hd, ho, hl⟩ :=
      create_destination_ok hplain hheaders (create_of_perform hargs hrun)
    exact after hu (snapshot_of_destination hd ho hl)
  | part h hd ih =>
    obtain ⟨o, ho⟩ := ih
    obtain rfl := Option.some.inj (ho.object.symm.trans hd)
    have hplain := ho.plain
    have hl := ho.linked _ _ _ rfl
    simp only [Object.isSnapshot, Destination.isPlain, Bool.and_eq_true] at hplain
    exact snapshot_of_properties hplain.1 hl.properties
  | later h command ih =>
    obtain ⟨o, ho⟩ := ih
    exact ⟨o, ho.later (precedes_step _ _)⟩

end Session

end Egress
