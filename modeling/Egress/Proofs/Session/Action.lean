import Egress.Proofs.Session.Precedes

/-!
# What actions keep

`stateAfter x s` is the state that the action `x` leaves when it starts in `s`. A sequence leaves it
in one of two ways (`stateAfter_bind_cases`), so a relation between states that is kept by the parts
of a sequence and can be chained is kept by the sequence. `Above s x` says that `x` leads from every
state after `s` to a state after `s`; it follows the shape of the action: `Above.bind` for a
sequence, `Above.get_bind` where the action looks at its state. `Sequential P` collects what it
takes for a property of actions to hold wherever objects are made one after the other: for the
containers of a value (`Sequential.place`), for an entry that is read (`Sequential.readEntry`) and
for a proxy configuration (`Sequential.addProxy`).
-/

namespace Egress.Session

variable {α β ε : Type} {s : State}

/-! ## Running -/

/-- The state that an action leaves. -/
def stateAfter (x : Action α) (s : State) : State := (x.run.run s).2

/-- Reading the state gives it and leaves it. -/
theorem get_eq (s : State) : (get : Action State).run.run s = (.ok s, s) := rfl

/-- After an action that gives a value, a sequence goes on from the state that is left. -/
theorem bind_eq_of_ok {x : Action α} {f : α → Action β} {a : α} {t : State}
    (h : x.run.run s = (.ok a, t)) : (x >>= f).run.run s = (f a).run.run t := by
  show (x.run >>= ExceptT.bindCont f).run s = _
  rw [StateT.run_bind, h]
  rfl

/-- After an action that fails, a sequence ends with the same failure. -/
theorem bind_eq_of_error {x : Action α} {f : α → Action β} {e : Failure} {t : State}
    (h : x.run.run s = (.error e, t)) : (x >>= f).run.run s = (.error e, t) := by
  show (x.run >>= ExceptT.bindCont f).run s = _
  rw [StateT.run_bind, h]
  rfl

/-- After an action that gives a value, the state is the one that the rest leaves. -/
theorem stateAfter_bind_of_ok {x : Action α} {f : α → Action β} {a : α} {t : State}
    (h : x.run.run s = (.ok a, t)) : stateAfter (x >>= f) s = stateAfter (f a) t :=
  congrArg Prod.snd (bind_eq_of_ok h)

/-- After an action that fails, the state is the one that it left. -/
theorem stateAfter_bind_of_error {x : Action α} {f : α → Action β} {e : Failure}
    (h : x.run.run s = (.error e, t)) : stateAfter (x >>= f) s = t :=
  congrArg Prod.snd (bind_eq_of_error h)

/-- A sequence leaves the state that its first action leaves, or the one to which the second leads
from there. -/
theorem stateAfter_bind_cases (x : Action α) (f : α → Action β) (s : State) :
    stateAfter (x >>= f) s = stateAfter x s ∨
      ∃ a, stateAfter (x >>= f) s = stateAfter (f a) (stateAfter x s) := by
  rcases hr : x.run.run s with ⟨r, t⟩
  have ht : stateAfter x s = t := congrArg Prod.snd hr
  rw [ht]
  cases r with
  | ok a => exact .inr ⟨a, stateAfter_bind_of_ok hr⟩
  | error e => exact .inl (stateAfter_bind_of_error hr)

/-- What is made of a value at the end does not matter to the state. -/
theorem stateAfter_bind_pure (x : Action α) (f : α → β) (s : State) :
    stateAfter (do return f (← x)) s = stateAfter x s := by
  rcases stateAfter_bind_cases x (fun a => pure (f a)) s with h | ⟨a, h⟩
  · exact h
  · exact h

/-- The same of a sequence that goes on after a sequence. -/
theorem bind_bind_eq_of_ok {γ : Type} {x : Action α} {f : α → Action β} {g : β → Action γ} {a : α}
    {t : State} (h : x.run.run s = (.ok a, t)) :
    ((x >>= f) >>= g).run.run s = (f a >>= g).run.run t := by
  rw [bind_assoc, bind_eq_of_ok h]

/-- A sequence that succeeds goes through a state in between. -/
theorem bind_ok {x : Action α} {f : α → Action β} {b : β} {t : State}
    (h : (x >>= f).run.run s = (.ok b, t)) :
    ∃ a u, x.run.run s = (.ok a, u) ∧ (f a).run.run u = (.ok b, t) := by
  rcases hr : x.run.run s with ⟨r, u⟩
  cases r with
  | ok a => exact ⟨a, u, rfl, by rw [← h, bind_eq_of_ok hr]⟩
  | error e =>
    rw [bind_eq_of_error hr] at h
    cases h

/-- Giving a value leaves the state as it is. -/
theorem pure_ok {a b : α} {t : State} (h : (pure a : Action α).run.run s = (.ok b, t)) :
    b = a ∧ t = s := by
  cases h
  exact ⟨rfl, rfl⟩

/-- Going on with a value keeps the state. -/
theorem orFail_ok {f : ε → Failure} {x : Except ε α} {a : α} {t : State}
    (h : (orFail f x).run.run s = (.ok a, t)) : x = .ok a ∧ t = s := by
  cases x with
  | ok b =>
    obtain ⟨rfl, rfl⟩ := pure_ok h
    exact ⟨rfl, rfl⟩
  | error e => cases h

/-! ## Making objects one after the other -/

/-- A property that sequences of actions inherit from their parts. Giving a value has it, and so
does adding an object that is new in itself. -/
structure Sequential (P : {α : Type} → Action α → Prop) : Prop where
  pure {α : Type} (a : α) : P (pure a : Action α)
  bind {α β : Type} {x : Action α} {f : α → Action β} (hx : P x) (hf : ∀ a, P (f a)) : P (x >>= f)
  add {o : Object} (ho : o.isFresh) : P (add o)

namespace Sequential

variable {P : {α : Type} → Action α → Prop}

/-- A container, which becomes an object if it can be changed. -/
theorem container (h : Sequential P) (access : Access) (v : Value) :
    P (if access = .mutable then Session.add (.container v) else return v) := by
  split
  · exact h.add rfl
  · exact h.pure v

mutual

/-- Placing a value adds containers one after the other. -/
theorem place (h : Sequential P) : (v : Value) → P (Session.place v)
  -- The parts are placed before their container.
  | .seq access items => by
    unfold Session.place
    exact h.bind (placeAll h items) fun _ => h.container _ _
  | .set access items => by
    unfold Session.place
    exact h.bind (placeAll h items) fun _ => h.container _ _
  | .map access entries => by
    unfold Session.place
    exact h.bind (placeEntries h entries) fun _ => h.container _ _
  -- Bytes that can be changed have a place of their own; those that cannot stay where they are.
  | .bytes .mutable data => h.add rfl
  | .bytes .frozen data => h.pure _
  | .null | .bool _ | .int _ | .float _ | .text _ | .member _ | .url _ | .header .. | .ref _ =>
    h.pure _

/-- The elements of a container are placed one after the other. -/
theorem placeAll (h : Sequential P) : (items : List Value) → P (Session.placeAll items)
  | [] => h.pure _
  | v :: rest => by
    unfold Session.placeAll
    exact h.bind (place h v) fun _ => h.bind (placeAll h rest) fun _ => h.pure _

/-- The entries of a map are placed one after the other, the key before the value. -/
theorem placeEntries (h : Sequential P) :
    (entries : List (Value × Value)) → P (Session.placeEntries entries)
  | [] => h.pure _
  | (k, v) :: rest => by
    unfold Session.placeEntries
    exact h.bind (place h v) fun _ => h.bind (placeEntries h rest) fun _ => h.pure _

end

/-- Reading an entry looks at the state and places what is read. -/
theorem readEntry (h : Sequential P) (hget : P (get : Action State))
    (hfail : ∀ {ε α : Type} (f : ε → Failure) (x : Except ε α), P (orFail f x))
    (entries : List (Value × Value)) (key conversion : Value) :
    P (Session.readEntry entries key conversion) := by
  refine h.bind (h.bind hget fun _ => h.pure _) fun name => ?_
  refine h.bind (h.bind (hfail _ _) fun _ => h.pure _) fun _ => ?_
  -- Absent, read with a key or by a conversion, or given as it is; only a value that was converted
  -- is placed.
  split
  · exact h.pure _
  · refine h.bind hget fun s => ?_
    split
    · exact h.pure _
    · exact h.bind (hfail _ _) fun v => h.place v
    · exact h.bind (hfail _ _) fun v => h.place v
    · exact h.pure _

/-- Credentials become an object, if there are any. -/
theorem addCredentials (h : Sequential P) (k : Option BasicCredentials) :
    P (Session.addCredentials k) := by
  cases k with
  | none => exact h.pure _
  | some k => exact h.add rfl

/-- The credentials of a proxy are made before the proxy. -/
theorem addProxy (h : Sequential P) (c : Option ProxyConfiguration) : P (Session.addProxy c) := by
  cases c with
  | none => exact h.pure _
  | some c => exact h.bind (h.addCredentials _) fun _ => h.add rfl

end Sequential

/-! ## Staying above a state -/

/-- An action leads from every state after `s` to a state after `s`. -/
def Above (s : State) (x : Action α) (asking : Bool := true) : Prop :=
  ∀ t, s.Precedes t asking → s.Precedes (stateAfter x t) asking

namespace Above

variable {asking : Bool}

/-- The state after a run is a later one. -/
theorem precedes {x : Action α} {r : Except Failure α} {t : State} (h : Above s x asking)
    (hr : x.run.run s = (r, t)) : s.Precedes t asking := by
  have hs := h s (.refl s)
  unfold stateAfter at hs
  rwa [hr] at hs

/-- It is enough to look at the state in which the action starts. -/
theorem of_forall {x : Action α} (h : ∀ t, s.Precedes t asking → Above t x asking) :
    Above s x asking :=
  fun t ht => ht.trans (h t ht t (.refl t))

/-- An action that keeps all objects. -/
theorem of_objects {x : Action α} (h : ∀ t, (stateAfter x t).objects = t.objects) :
    Above s x asking :=
  fun t ht => ht.trans (.of_objects (h t))

theorem pure (a : α) : Above s (pure a) asking := of_objects fun _ => rfl

theorem throw (e : Failure) : Above s (throw e : Action α) asking := of_objects fun _ => rfl

/-- A sequence leads to a later state if each of its parts does. -/
theorem bind {x : Action α} {f : α → Action β} (hx : Above s x asking)
    (hf : ∀ a, Above s (f a) asking) : Above s (x >>= f) asking := by
  intro t ht
  rcases stateAfter_bind_cases x f t with h | ⟨a, h⟩
  · rw [h]
    exact hx t ht
  · rw [h]
    exact hf a _ (hx t ht)

/-- An action may look at the state that it starts in. -/
theorem get_bind {f : State → Action β} (h : ∀ t, s.Precedes t asking → Above t (f t) asking) :
    Above s (get >>= f) asking :=
  of_forall fun t ht u hu => by
    show t.Precedes (stateAfter (f u) u) asking
    exact hu.trans (h u (ht.trans hu) u (.refl u))

theorem map {x : Action α} (f : α → β) (hx : Above s x asking) : Above s (f <$> x) asking := by
  rw [map_eq_pure_bind]
  exact hx.bind fun a => pure (f a)

theorem discard {x : Action α} (hx : Above s x asking) : Above s (discard x) asking := hx.map _

/-- Both branches of an action have to lead to later states. -/
theorem ite {p : Prop} [Decidable p] {x y : Action α} (hx : Above s x asking)
    (hy : Above s y asking) : Above s (if p then x else y) asking := by
  split
  · exact hx
  · exact hy

/-- Objects are all that counts: what leaves them alone leads to a later state. -/
theorem modify {f : State → State} (h : ∀ t, (f t).objects = t.objects) :
    Above s (modify f : Action Unit) asking := of_objects h

/-- Going to a later state. -/
theorem set {t : State} (h : s.Precedes t asking) : Above s (set t : Action Unit) asking :=
  fun _ _ => h

/-- A result leaves the state as it is, and so does a failure. -/
theorem orFail (f : ε → Failure) (x : Except ε α) : Above s (orFail f x) asking := by
  cases x with
  | ok a => exact pure a
  | error e => exact throw (f e)

theorem resolve (v : Value) : Above s (resolve v) asking := of_objects fun _ => rfl

theorem write (records : List Record) : Above s (write records) asking := modify fun _ => rfl

/-- Writing records and going on with a result leave the objects alone. -/
theorem perform (x : Logged Failure α) : Above s (perform x) asking :=
  bind (write _) fun _ => orFail _ _

/-- A new object that is new in itself. -/
theorem add {o : Object} (ho : o.isFresh) : Above s (add o) asking :=
  fun t ht => ht.trans (t.precedes_add_other ho)

/-- Leading to later states is inherited from the parts of a sequence. -/
theorem sequential (s : State) : Sequential fun x => Above s x asking := ⟨pure, bind, add⟩

/-- An object that may stand in the place of the one that a value referred to at first. -/
theorem update_later {r : State} {v : Value} {o o' : Object} (ho : r.object? v = some o)
    (hrs : r.Precedes s asking) (hl : o.isLasting = false) (hb : o.Becomes asking o') :
    Above s (update v o') asking := by
  intro t ht
  cases v with
  | ref id =>
    obtain ⟨o₁, ho₁, hb₁⟩ := (hrs.trans ht).kept id o ho
    exact ht.trans (State.precedes_update ho₁ (hb₁.join hb hl))
  | _ => exact ht

/-- An object that may stand in the place of the one that a value refers to. -/
theorem update {v : Value} {o o' : Object} (ho : s.object? v = some o) (hl : o.isLasting = false)
    (hb : o.Becomes asking o') : Above s (update v o') asking :=
  update_later ho (.refl s) hl hb

end Above

end Egress.Session
