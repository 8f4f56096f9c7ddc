import Egress.Session.Step

/-!
# What a session keeps

Steps add objects and put new objects into the places of containers, drafts, builders, providers,
factories and clients. `State.Precedes s t` says that this is all that happens between `s` and `t`:
every object stays at its place, an object of another kind stays as it is, and a destination that is
new refers to a store and a proxy configuration of its own.

Whether a factory is asked in between is a parameter, true unless it is given: `s.Precedes t false`
says also that what the factories have been asked is the same in both states, new factories
included, which have not been asked anything.

`Above s x` says that the action `x` leads from every state after `s` to a state after `s`. It is
closed under sequencing, so that each action needs one short lemma only.
-/

namespace Egress.Session

/-! ## How an object may change -/

/-- What may stand in the place of an object later on. -/
inductive Object.Becomes (asking : Bool) : Object → Object → Prop where
  | same (o : Object) : Becomes asking o o
  | container (v w : Value) : Becomes asking (.container v) (.container w)
  | draft (d e : Draft) : Becomes asking (.draft d) (.draft e)
  | builder (b c : Builder) : Becomes asking (.builder b) (.builder c)
  | provider (p q : Provider) : Becomes asking (.provider p) (.provider q)
  -- A factory that is asked still answers in the same way.
  | factory (f g : Factory) (h : asking = true) (hfixed : g.fixed = f.fixed) :
    Becomes asking (.factory f) (.factory g)
  | client (c d : Client) (r q : List Response) (a b : Bool) :
    Becomes asking (.client c r a) (.client d q b)

/-- Whether an object can never change. -/
def Object.isLasting : Object → Bool
  | .key _ | .conversion _ | .settings _ | .properties _ | .destination .. | .credentials _
  | .proxy .. | .transport _ => true
  | .container _ | .draft _ | .builder _ | .provider _ | .factory _ | .client .. => false

/-- Whether an object is new in itself: it refers to no objects that must be there before it, as a
destination does, and it is no factory that was asked. -/
def Object.isFresh : Object → Bool
  | .destination .. => false
  | .factory f => f.asked.isEmpty
  | _ => true

namespace Object.Becomes

variable {asking : Bool} {o o' o'' : Object}

theorem trans (h : o.Becomes asking o') (h' : o'.Becomes asking o'') : o.Becomes asking o'' := by
  cases h with
  | same => exact h'
  | container => cases h' <;> constructor
  | draft => cases h' <;> constructor
  | builder => cases h' <;> constructor
  | provider => cases h' <;> constructor
  -- What a factory derives stays, and it is only asked more often.
  | factory _ _ h hfixed =>
    cases h' with
    | same => exact .factory _ _ h hfixed
    | factory _ _ _ hfixed' => exact .factory _ _ h (hfixed'.trans hfixed)
  | client => cases h' <;> constructor

/-- A lasting object does not change. -/
theorem eq_of_isLasting (h : o.Becomes asking o') (ho : o.isLasting) : o' = o := by
  cases h <;> first | rfl | cases ho

/-- What is a lasting object was that object before. -/
theorem eq_of_isLasting_right (h : o.Becomes asking o') (ho : o'.isLasting) : o = o' := by
  cases h <;> first | rfl | cases ho

/-- An object that has changed may still become all that it could. -/
theorem join (h : o.Becomes asking o') (h' : o.Becomes asking o'') (ho : o.isLasting = false) :
    o'.Becomes asking o'' := by
  cases h with
  | same => exact h'
  | factory _ _ h hfixed =>
    cases h' with
    | same => exact .factory _ _ h hfixed.symm
    | factory _ _ _ hfixed' => exact .factory _ _ h (hfixed'.trans hfixed.symm)
  | _ => cases h' <;> constructor

/-- A change that asks no factory is a change. -/
theorem of_calm (h : o.Becomes false o') : o.Becomes asking o' := by
  cases h with
  | factory _ _ h => cases h
  | _ => constructor

end Object.Becomes

/-! ## States, one after the other -/

/-- The objects that a destination refers to are those of its properties and its proxy. -/
structure State.Linked (s : State) (d : Destination) (properties proxy : Value) : Prop where
  -- The store is that of the destination.
  properties : s.object? properties = some (.properties d.properties)
  -- The proxy configuration is that of the destination, if it has one.
  proxy : (proxy = .null ∧ d.proxy = none) ∨
    ∃ c k, s.object? proxy = some (.proxy c k) ∧ d.proxy = some c

/-- One state of a session may be followed by another. -/
structure State.Precedes (s t : State) (asking : Bool := true) : Prop where
  -- Every object keeps its place.
  kept : ∀ (id : Nat) (o : Object), s.objects[id]? = some o →
    ∃ o', t.objects[id]? = some o' ∧ o.Becomes asking o'
  -- Every new destination refers to its own objects.
  linked : ∀ (id : Nat) (d : Destination) (p c : Value), s.objects[id]? = none →
    t.objects[id]? = some (.destination d p c) → t.Linked d p c
  -- A new factory was not asked, unless factories are.
  unasked : asking = false → ∀ (id : Nat) (f : Factory), s.objects[id]? = none →
    t.objects[id]? = some (.factory f) → f.asked = []

namespace State.Precedes

variable {asking : Bool} {s t u : State}

theorem refl (s : State) : s.Precedes s asking where
  kept id o h := ⟨o, h, .same o⟩
  linked id d p c h h' := by rw [h] at h'; cases h'
  unasked _ id f h h' := by rw [h] at h'; cases h'

/-- Only the objects matter. -/
theorem of_objects (h : t.objects = s.objects) : s.Precedes t asking where
  kept id o ho := ⟨o, by rw [h, ho], .same o⟩
  linked id d p c hs ht := by rw [h, hs] at ht; cases ht
  unasked _ id f hs ht := by rw [h, hs] at ht; cases ht

/-- An object that a value refers to is there in some form. -/
theorem becomes (h : s.Precedes t asking) {v : Value} {o : Object} (ho : s.object? v = some o) :
    ∃ o', t.object? v = some o' ∧ o.Becomes asking o' := by
  cases v with
  | ref id => exact h.kept id o ho
  | _ => cases ho

/-- An object that can never change is still there. -/
theorem object?_eq (h : s.Precedes t asking) {v : Value} {o : Object} (ho : s.object? v = some o)
    (hl : o.isLasting) : t.object? v = some o := by
  obtain ⟨o', ho', hb⟩ := h.becomes ho
  rw [hb.eq_of_isLasting hl] at ho'
  exact ho'

/-- A destination keeps its parts. -/
theorem linked_of_linked (h : s.Precedes t asking) {d : Destination} {p c : Value}
    (hl : s.Linked d p c) : t.Linked d p c where
  properties := h.object?_eq hl.properties rfl
  proxy := by
    obtain hn | ⟨x, k, hx, hd⟩ := hl.proxy
    · exact .inl hn
    · exact .inr ⟨x, k, h.object?_eq hx rfl, hd⟩

theorem trans (h : s.Precedes t asking) (h' : t.Precedes u asking) : s.Precedes u asking where
  kept id o ho := by
    obtain ⟨o₁, ho₁, hb₁⟩ := h.kept id o ho
    obtain ⟨o₂, ho₂, hb₂⟩ := h'.kept id o₁ ho₁
    exact ⟨o₂, ho₂, hb₁.trans hb₂⟩
  linked id d p c hs hu := by
    cases ht : t.objects[id]? with
    | none => exact h'.linked id d p c ht hu
    | some o =>
      -- the destination was there in between, so it was linked then
      obtain ⟨o', ho', hb⟩ := h'.kept id o ht
      rw [hu] at ho'
      cases ho'
      rw [hb.eq_of_isLasting_right rfl] at ht
      exact h'.linked_of_linked (h.linked id d p c hs ht)
  unasked ha id f hs hu := by
    cases ht : t.objects[id]? with
    | none => exact h'.unasked ha id f ht hu
    | some o =>
      -- the factory was there in between, and it has not changed since
      obtain ⟨o', ho', hb⟩ := h'.kept id o ht
      rw [hu] at ho'
      cases ho'
      subst ha
      cases hb with
      | same => exact h.unasked rfl id f hs ht
      | factory _ _ h => cases h

/-- A state that follows without factories being asked is a later state. -/
theorem of_calm (h : s.Precedes t false) : s.Precedes t asking where
  kept id o ho := by
    obtain ⟨o', ho', hb⟩ := h.kept id o ho
    exact ⟨o', ho', hb.of_calm⟩
  linked := h.linked
  unasked _ := h.unasked rfl

end State.Precedes

namespace State

variable {asking : Bool} {s t : State}

/-- An added object is where its reference says. -/
theorem object?_add_self (s : State) (o : Object) : (s.add o).2.object? (s.add o).1 = some o := by
  simp [add, object?]

/-- A new object, which refers to its own objects if it is a destination. -/
theorem precedes_add (s : State) (o : Object)
    (h : ∀ d p c, o = .destination d p c → s.Linked d p c)
    (hasked : ∀ f, o = .factory f → f.asked = []) : s.Precedes (s.add o).2 asking := by
  have kept : ∀ (id : Nat) (o' : Object), s.objects[id]? = some o' →
      ∃ o'', (s.add o).2.objects[id]? = some o'' ∧ o'.Becomes asking o'' := by
    intro id o' ho
    obtain ⟨hlt, -⟩ := List.getElem?_eq_some_iff.mp ho
    exact ⟨o', by simp [add, List.getElem?_append_left hlt, ho], .same o'⟩
  have keeps : ∀ v o', s.object? v = some o' → (s.add o).2.object? v = some o' := by
    intro v o' ho
    cases v with
    | ref id =>
      obtain ⟨hlt, -⟩ := List.getElem?_eq_some_iff.mp ho
      show (s.objects ++ [o])[id]? = some o'
      rw [List.getElem?_append_left hlt]
      exact ho
    | _ => cases ho
  -- whatever is new is the object that was added
  have added : ∀ (id : Nat) (o' : Object), s.objects[id]? = none →
      (s.add o).2.objects[id]? = some o' → o = o' := by
    intro id o' hs ht
    have hle := List.getElem?_eq_none_iff.mp hs
    simp only [add, List.getElem?_append_right hle, List.getElem?_singleton] at ht
    split at ht
    · exact Option.some.inj ht
    · cases ht
  refine ⟨kept, ?_, fun _ id f hs ht => hasked f (added id _ hs ht)⟩
  intro id d p c hs ht
  have hl := h d p c (added id _ hs ht)
  refine ⟨keeps _ _ hl.properties, ?_⟩
  obtain hn | ⟨x, k, hx, hd⟩ := hl.proxy
  · exact .inl hn
  · exact .inr ⟨x, k, keeps _ _ hx, hd⟩

/-- Adding an object that is new in itself leads to a later state. -/
theorem precedes_add_other (s : State) {o : Object} (ho : o.isFresh) :
    s.Precedes (s.add o).2 asking := by
  apply s.precedes_add
  · rintro d p c rfl
    cases ho
  · rintro f rfl
    exact List.isEmpty_iff.1 ho

/-- Adding a destination that is linked to its parts leads to a later state. -/
theorem precedes_add_destination (s : State) {d : Destination} {p c : Value}
    (h : s.Linked d p c) : s.Precedes (s.add (.destination d p c)).2 asking := by
  apply s.precedes_add
  · intro d' p' c' hd
    cases hd
    exact h
  · intro f hf
    cases hf

/-- An object that may stand in the place of the one that is there. -/
theorem precedes_update {id : Nat} {o o' : Object} (ho : s.objects[id]? = some o)
    (hb : o.Becomes asking o') : s.Precedes (s.update id o') asking := by
  obtain ⟨hlt, -⟩ := List.getElem?_eq_some_iff.mp ho
  -- No object appears, so nothing has to be said about new destinations and new factories.
  have absent : ∀ i : Nat, s.objects[i]? = none → (s.update id o').objects[i]? = none := by
    intro i hs
    have hi : id ≠ i := by
      intro hi
      rw [← hi, ho] at hs
      cases hs
    simp only [update, List.getElem?_set_ne hi, hs]
  refine ⟨?_, ?_, ?_⟩
  -- The object in the place that is updated changes, all others stay.
  · intro i x hx
    by_cases hi : i = id
    · subst hi
      rw [ho] at hx
      cases hx
      exact ⟨o', by simp [update, hlt], hb⟩
    · exact ⟨x, by simp [update, List.getElem?_set_ne (Ne.symm hi), hx], .same x⟩
  · intro i d p c hs ht
    rw [absent i hs] at ht
    cases ht
  · intro _ i f hs ht
    rw [absent i hs] at ht
    cases ht

end State

end Egress.Session
