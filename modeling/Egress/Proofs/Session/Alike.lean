import Egress.Proofs.Session.Observation

/-!
# Looking at two states

An action reads when it leaves the state and gives the same in two states (`Reads`). What is looked
at in a snapshot stands for the same thing in both (`Alike`), so the actions that compare, hash and
show things read (`Reads.equal`, `Reads.digestOf`, `Reads.literalOf`), and what they answer is seen
alike (`SeenAlike`).
-/

namespace Egress

namespace Session

variable {s t : State}

/-! ## Reading without changing -/

/-- An action that leaves its state and gives the same everywhere. -/
def Constant {α : Type} (x : Action α) : Prop := ∃ r, ∀ u, x.run.run u = (r, u)

/-- An action that leaves its state and gives the same in two states. -/
def Reads {α : Type} (s t : State) (x : Action α) : Prop :=
  ∃ r, x.run.run s = (r, s) ∧ x.run.run t = (r, t)

theorem Constant.pure {α : Type} (a : α) : Constant (Pure.pure a) := ⟨.ok a, fun _ => rfl⟩

theorem Constant.throw {α : Type} (e : Failure) : Constant (MonadExcept.throw e : Action α) :=
  ⟨.error e, fun _ => rfl⟩

/-- A result is the same in every state. -/
theorem Constant.orFail {ε α : Type} (f : ε → Failure) (x : Except ε α) :
    Constant (Session.orFail f x) := by
  cases x with
  | ok a => exact pure a
  | error e => exact throw (f e)

/-- An action that looks at its state reads the same where it makes the same of both states. -/
theorem Reads.get_bind {α : Type} {f : State → Action α} (h : f s = f t) (hc : Constant (f t)) :
    Reads s t (get >>= f) := by
  obtain ⟨r, hr⟩ := hc
  refine ⟨r, ?_, hr t⟩
  show (f s).run.run s = _
  rw [h]
  exact hr s

/-- A sequence reads the same if each of its parts does. -/
theorem Reads.bind {α β : Type} {x : Action α} {f : α → Action β} (hx : Reads s t x)
    (hf : ∀ a, Reads s t (f a)) : Reads s t (x >>= f) := by
  obtain ⟨r, hs, ht⟩ := hx
  cases r with
  | ok a =>
    obtain ⟨r', hs', ht'⟩ := hf a
    exact ⟨r', by rw [bind_eq_of_ok hs, hs'], by rw [bind_eq_of_ok ht, ht']⟩
  | error e => exact ⟨.error e, bind_eq_of_error hs, bind_eq_of_error ht⟩

/-- A value stands for the same thing in two states, which never changes. -/
structure Alike (s t : State) (v : Value) : Prop where
  -- It is the same object, if it is one.
  object : t.object? v = s.object? v
  -- It shows as itself in the first state.
  left : s.resolve v = v
  -- It shows as itself in the second state.
  right : t.resolve v = v
  plain : ∀ d p c, s.object? v = some (.destination d p c) → d.isPlain

/-- The word for the type is the same. -/
theorem Alike.typeName {v : Value} (h : Alike s t v) : t.typeName v = s.typeName v := by
  unfold State.typeName
  rw [h.object]

/-- The elements are the same. -/
theorem Alike.elements? {v : Value} (h : Alike s t v) : t.elements? v = s.elements? v := by
  unfold State.elements?
  rw [h.object]

/-- What is a text is plain. -/
theorem isPlain_of_text? {v : Value} (h : v.text?.isSome) : v.isPlain := by
  cases v <;> first | rfl | cases h

/-- A header of texts shows as itself. -/
theorem resolve_of_isTextHeader {h : Value} (hh : h.isTextHeader) (s : State) :
    s.resolve h = h := by
  cases h with
  | header name value =>
    unfold Value.isTextHeader at hh
    rw [Bool.and_eq_true] at hh
    unfold State.resolve
    -- However deep references are followed, there is none in a text.
    cases s.objects.length with
    | zero => rfl
    | succ depth =>
      show substitute _ _ = _
      rw [substitute, substitute_of_isPlain _ name (isPlain_of_text? hh.1),
        substitute_of_isPlain _ value (isPlain_of_text? hh.2)]
  | _ => cases hh

/-- The headers of a plain destination show as themselves. -/
theorem map_resolve_of_isPlain {d : Destination} (h : d.isPlain) (s : State) :
    d.headers.map s.resolve = d.headers := by
  unfold Destination.isPlain at h
  rw [Bool.and_eq_true, List.all_eq_true] at h
  exact (List.map_congr_left fun x hx => resolve_of_isTextHeader (h.2 x hx) s).trans
    (List.map_id _)

/-- The headers of a destination are shown alike. -/
theorem Alike.headers {v : Value} {d : Destination} {p c : Value} (h : Alike s t v)
    (ho : s.object? v = some (.destination d p c)) :
    d.headers.map s.resolve = d.headers.map t.resolve := by
  have hd := h.plain d p c ho
  rw [map_resolve_of_isPlain hd, map_resolve_of_isPlain hd]

namespace Reads

variable {v : Value}

/-- It is written down alike. -/
theorem literalOf (h : Alike s t v) : Reads s t (literalOf v) := by
  apply get_bind
  -- Only the contents, the entries and the headers of the value are looked at.
  · rw [h.object, h.left, h.right]
    split
    · rfl
    · rename_i ho
      rw [h.headers ho]
    · rfl
    · rfl
    · rfl
  · split <;> exact .pure _

/-- Two such values are equal in both states or in none. -/
theorem equal {a b : Value} (ha : Alike s t a) (hb : Alike s t b) : Reads s t (equal a b) := by
  apply get_bind
  -- The same for both values.
  · rw [ha.object, hb.object, ha.left, ha.right, hb.left, hb.right]
    split
    · rfl
    · rename_i ho ho'
      rw [ha.headers ho, hb.headers ho']
    · rfl
    · rfl
    · rfl
    · rfl
  · split
    all_goals first | exact .pure _ | exact .orFail _ _

/-- It has the same digest, or fails to have one alike. -/
theorem digestOf (h : Alike s t v) : Reads s t (digestOf v) := by
  apply get_bind
  -- A digest looks at the same parts.
  · rw [h.object, h.left, h.right]
    split
    · rfl
    · rename_i ho
      rw [h.headers ho]
    · rfl
    · rfl
    · rfl
  · split <;> exact .orFail _ _

/-- Its parts are the same. -/
theorem partOf (h : Alike s t v) (name : String) : Reads s t (partOf v name) := by
  apply get_bind
  · rw [h.object, h.typeName]
  · split
    all_goals first | exact .pure _ | exact .throw _

/-- Its elements are the same. -/
theorem elementsOf (h : Alike s t v) : Reads s t (elementsOf v) := by
  apply get_bind
  · rw [h.elements?]
  · exact .pure _

/-- Its length is the same. -/
theorem lengthOf (h : Alike s t v) : Reads s t (lengthOf v) := by
  refine bind (elementsOf h) fun items => ?_
  cases items with
  | none => exact get_bind (by rw [h.typeName]) (.throw _)
  | some items => exact ⟨_, rfl, rfl⟩

/-- It has elements in both states or in none. -/
theorem requireElements (h : Alike s t v) : Reads s t (requireElements v) := by
  refine bind (elementsOf h) fun items => ?_
  cases items with
  | none => exact get_bind (by rw [h.typeName]) (.throw _)
  | some items => exact ⟨_, rfl, rfl⟩

end Reads

/-! ## Values that are seen alike -/

/-- A value is seen in the same way in two states. -/
def SeenAlike (s t : State) (v : Value) : Prop :=
  (Answer.value v).seenIn t = (Answer.value v).seenIn s

/-- What stands for the same thing is seen alike. -/
theorem Alike.seen {v : Value} (h : Alike s t v) : SeenAlike s t v := by
  unfold SeenAlike
  rw [seenIn_value, seenIn_value, h.left, h.right, h.object]

/-- A plain value stands for the same thing in any two states. -/
theorem alike_of_isPlain (s t : State) {v : Value} (h : v.isPlain) : Alike s t v where
  object := by rw [object?_of_isPlain s h, object?_of_isPlain t h]
  left := resolve_of_isPlain s h
  right := resolve_of_isPlain t h
  plain d p c hd := by
    rw [object?_of_isPlain s h] at hd
    cases hd

/-- An object that never changes is the same later on. -/
theorem alike_of_object? {v : Value} {o : Object} (hst : s.Precedes t) (h : s.object? v = some o)
    (ho : o.isLasting) (hp : ∀ d p c, o = .destination d p c → d.isPlain) : Alike s t v := by
  have ht := hst.object?_eq h ho
  have hc : o.isContainer = false := by
    cases o <;> first | rfl | cases ho
  refine ⟨by rw [h, ht], resolve_of_object? h hc, resolve_of_object? ht hc, ?_⟩
  intro d p c hd
  rw [h] at hd
  exact hp d p c (Option.some.inj hd)

/-- The headers of a plain destination are seen alike in any two states. -/
theorem seenAlike_headers {d : Destination} (h : d.isPlain) (s t : State) :
    SeenAlike s t (.seq .frozen d.headers) := by
  have hseq (u : State) : u.resolve (.seq .frozen d.headers) = .seq .frozen d.headers := by
    show u.resolveWithin u.objects.length _ = _
    rw [resolveWithin_seq]
    exact congrArg _ (map_resolve_of_isPlain h u)
  unfold SeenAlike
  rw [seenIn_value, seenIn_value, hseq, hseq]
  rfl

end Session

end Egress
