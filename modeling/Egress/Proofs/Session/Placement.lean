import Egress.Proofs.Session.Action
import Egress.Proofs.Value.Plain

/-!
# Placing and resolving

`place` makes an object of every mutable container in a value, and `State.resolve` shows the
containers again. For plain values the second undoes the first: what is placed shows as the value
that was placed (`place_eq`), and a value that holds no reference shows as itself
(`resolve_of_isPlain`).
-/

namespace Egress.Session

open Value

variable {s t : State}

/-! ## Plain values show as themselves -/

mutual

/-- A plain value refers to nothing, so there is nothing to substitute. -/
theorem substitute_of_isPlain (look : Nat → Option Value) :
    (v : Value) → v.isPlain → substitute look v = v
  -- A container is substituted part by part; no other plain value has parts.
  | .seq access items, h => by
    rw [substitute, substituteAll_of_areAllPlain look items h]
  | .set access items, h => by
    rw [substitute, substituteAll_of_areAllPlain look items h]
  | .map access entries, h => by
    rw [substitute, substituteEntries_of_arePlainEntries look entries h]
  | .header .., h => by cases h
  | .ref _, h => by cases h
  | .null, _ | .bool _, _ | .int _, _ | .float _, _ | .text _, _ | .member _, _ | .bytes .., _
  | .url _, _ => by rfl

/-- The same of the elements of a container. -/
theorem substituteAll_of_areAllPlain (look : Nat → Option Value) :
    (items : List Value) → areAllPlain items → substituteAll look items = items
  | [], _ => rfl
  | v :: rest, h => by
    rw [areAllPlain, Bool.and_eq_true] at h
    rw [substituteAll, substitute_of_isPlain look v h.1,
      substituteAll_of_areAllPlain look rest h.2]

/-- The same of the entries of a map. -/
theorem substituteEntries_of_arePlainEntries (look : Nat → Option Value) :
    (entries : List (Value × Value)) → arePlainEntries entries →
      substituteEntries look entries = entries
  | [], _ => rfl
  | (k, v) :: rest, h => by
    rw [arePlainEntries, Bool.and_eq_true, Bool.and_eq_true] at h
    rw [substituteEntries, substitute_of_isPlain look k h.1.1, substitute_of_isPlain look v h.1.2,
      substituteEntries_of_arePlainEntries look rest h.2]

end

/-- A plain value shows as itself to any depth. -/
theorem resolveWithin_of_isPlain (s : State) (depth : Nat) {v : Value} (h : v.isPlain) :
    s.resolveWithin depth v = v := by
  cases depth with
  | zero => rfl
  | succ depth => exact substitute_of_isPlain _ v h

/-- A plain value shows as itself. -/
theorem resolve_of_isPlain (s : State) {v : Value} (h : v.isPlain) : s.resolve v = v :=
  resolveWithin_of_isPlain s _ h

/-! ## Containers show their elements -/

/-- References are substituted in each element. -/
theorem substituteAll_eq_map (look : Nat → Option Value) (items : List Value) :
    substituteAll look items = items.map (substitute look) := by
  induction items with
  | nil => rfl
  | cons v rest ih => rw [substituteAll, ih, List.map_cons]

/-- References are substituted in each key and each value. -/
theorem substituteEntries_eq_map (look : Nat → Option Value) (entries : List (Value × Value)) :
    substituteEntries look entries =
      entries.map fun e => (substitute look e.1, substitute look e.2) := by
  induction entries with
  | nil => rfl
  | cons e rest ih =>
    obtain ⟨k, v⟩ := e
    rw [substituteEntries, ih, List.map_cons]

/-- A sequence shows as the sequence of what its elements show as. -/
theorem resolveWithin_seq (s : State) (depth : Nat) (access : Access) (items : List Value) :
    s.resolveWithin depth (.seq access items) =
      .seq access (items.map (s.resolveWithin depth)) := by
  cases depth with
  | zero => simp [State.resolveWithin]
  | succ depth =>
    simp only [State.resolveWithin, substitute, substituteAll_eq_map]

/-- A set shows as the set of what its elements show as. -/
theorem resolveWithin_set (s : State) (depth : Nat) (access : Access) (items : List Value) :
    s.resolveWithin depth (.set access items) =
      .set access (items.map (s.resolveWithin depth)) := by
  cases depth with
  | zero => simp [State.resolveWithin]
  | succ depth =>
    simp only [State.resolveWithin, substitute, substituteAll_eq_map]

/-- A map shows as the map of what its keys and values show as. -/
theorem resolveWithin_map (s : State) (depth : Nat) (access : Access)
    (entries : List (Value × Value)) :
    s.resolveWithin depth (.map access entries) = .map access
      (entries.map fun e => (s.resolveWithin depth e.1, s.resolveWithin depth e.2)) := by
  cases depth with
  | zero => simp [State.resolveWithin]
  | succ depth =>
    simp only [State.resolveWithin, substitute, substituteEntries_eq_map]

/-- A reference to a container shows the content of the container. -/
theorem resolveWithin_ref {id : Nat} {content : Value}
    (h : s.objects[id]? = some (.container content)) (depth : Nat) :
    s.resolveWithin (depth + 1) (.ref id) = s.resolveWithin depth content := by
  simp [State.resolveWithin, substitute, State.content?, h]

/-- Whether an object is a container. -/
def Object.isContainer : Object → Bool
  | .container _ => true
  | _ => false

/-- Only containers have contents. -/
theorem content?_eq_none {id : Nat} {o : Object} (h : s.objects[id]? = some o)
    (ho : o.isContainer = false) : s.content? id = none := by
  unfold State.content?
  rw [h]
  cases o with
  | container content => cases ho
  | _ => rfl

/-- A reference to anything else shows as itself. -/
theorem resolve_of_object? {v : Value} {o : Object} (h : s.object? v = some o)
    (ho : o.isContainer = false) : s.resolve v = v := by
  cases v with
  | ref id =>
    have hc := content?_eq_none h ho
    unfold State.resolve
    cases s.objects.length with
    | zero => rfl
    | succ depth => simp [State.resolveWithin, substitute, hc]
  | _ => cases h

/-! ## Placing -/

/-- With new objects after those of a state, a value shows as another one, at every depth that
reaches through the new objects. -/
def ShowsWith (s : State) (new : List Object) (placed v : Value) : Prop :=
  ∀ (t : State) (more : List Object), t.objects = s.objects ++ new ++ more →
    ∀ depth, new.length ≤ depth → t.resolveWithin depth placed = v

/-- A state with more objects. -/
def State.extend (s : State) (new : List Object) : State := { s with objects := s.objects ++ new }

theorem State.extend_nil (s : State) : s.extend [] = s := by
  simp [State.extend]

/-- Objects that are added after others are added last. -/
theorem State.extend_append (s : State) (new more : List Object) :
    s.extend (new ++ more) = (s.extend new).extend more := by
  simp [State.extend]

/-- A container is one level more. -/
theorem ShowsWith.container {new : List Object} {content v : Value}
    (h : ShowsWith s new content v) :
    ShowsWith s (new ++ [.container content]) (.ref (s.objects ++ new).length) v := by
  intro t more ht depth hdepth
  rw [List.length_append, List.length_singleton] at hdepth
  obtain ⟨depth, rfl⟩ : ∃ n, depth = n + 1 := ⟨depth - 1, by omega⟩
  have hobj : t.objects[(s.objects ++ new).length]? = some (.container content) := by
    rw [ht, ← List.append_assoc s.objects, List.append_assoc _ [_],
      List.getElem?_append_right (Nat.le_refl _), Nat.sub_self]
    rfl
  -- One level of depth is spent on the reference itself.
  rw [resolveWithin_ref hobj]
  apply h t (.container content :: more) _ depth (by omega)
  rw [ht]
  simp

/-- A plain value shows as itself, whatever is added. -/
theorem ShowsWith.of_isPlain {new : List Object} {v : Value} (h : v.isPlain) :
    ShowsWith s new v v :=
  fun t _ _ depth _ => resolveWithin_of_isPlain t depth h

/-- A placed value becomes an object if it can be changed. -/
theorem add_container_eq {new : List Object} {content v : Value} (access : Access)
    (h : ShowsWith s new content v) :
    ∃ placed new', (if access = .mutable then add (.container content)
      else return content : Action Value).run.run (s.extend new) =
        (.ok placed, s.extend (new ++ new')) ∧ ShowsWith s (new ++ new') placed v := by
  cases access with
  -- A container that can be changed becomes the next object.
  | mutable =>
    refine ⟨_, [.container content], ?_, h.container⟩
    show (Except.ok _, _) = _
    simp [State.extend]
  | frozen =>
    -- One that cannot stays a value, and no object is added.
    refine ⟨content, [], ?_, ?_⟩
    · rw [List.append_nil]
      rfl
    · rw [List.append_nil]
      exact h

/-- The parts of a value are placed first, and then their container. -/
theorem bind_container_eq {γ : Type} {x : Action γ} {placed : γ} {f : γ → Value}
    {new : List Object} {v : Value} (access : Access)
    (hrun : x.run.run s = (.ok placed, s.extend new)) (h : ShowsWith s new (f placed) v) :
    ∃ w all, (do
      let parts ← x
      if access = .mutable then add (.container (f parts))
      else return f parts : Action Value).run.run s = (.ok w, s.extend all) ∧
        ShowsWith s all w v := by
  obtain ⟨w, new', hrun', hshows⟩ := add_container_eq access h
  refine ⟨w, new ++ new', ?_, hshows⟩
  rw [bind_eq_of_ok hrun]
  exact hrun'

mutual

/-- A plain value that is placed shows as itself, with the new objects. -/
theorem place_eq : (v : Value) → v.isPlain → (s : State) →
    ∃ placed new, (place v).run.run s = (.ok placed, s.extend new) ∧ ShowsWith s new placed v
  | .seq access items, h, s => by
    -- The elements come first, and the container holds what they became.
    obtain ⟨placed, new, hrun, hshows⟩ := placeAll_eq items h s
    have hcontent : ShowsWith s new (.seq access placed) (.seq access items) := by
      intro t more ht depth hdepth
      rw [resolveWithin_seq, hshows t more ht depth hdepth]
    rw [place]
    exact bind_container_eq access hrun hcontent
  | .set access items, h, s => by
    obtain ⟨placed, new, hrun, hshows⟩ := placeAll_eq items h s
    have hcontent : ShowsWith s new (.set access placed) (.set access items) := by
      intro t more ht depth hdepth
      rw [resolveWithin_set, hshows t more ht depth hdepth]
    rw [place]
    exact bind_container_eq access hrun hcontent
  | .map access entries, h, s => by
    obtain ⟨placed, new, hrun, hshows⟩ := placeEntries_eq entries h s
    have hcontent : ShowsWith s new (.map access placed) (.map access entries) := by
      intro t more ht depth hdepth
      rw [resolveWithin_map, hshows t more ht depth hdepth]
    rw [place]
    exact bind_container_eq access hrun hcontent
  | .bytes .mutable data, _, s => by
    -- Bytes hold no values, so they are placed at once.
    have hcontent : ShowsWith s [] (.bytes .mutable data) (.bytes .mutable data) :=
      .of_isPlain rfl
    obtain ⟨placed, new, hrun, hshows⟩ := add_container_eq .mutable hcontent
    rw [State.extend_nil] at hrun
    exact ⟨placed, new, hrun, hshows⟩
  | .bytes .frozen data, h, s => ⟨_, [], by rw [State.extend_nil]; rfl, ShowsWith.of_isPlain h⟩
  | .null, h, s | .bool _, h, s | .int _, h, s | .float _, h, s | .text _, h, s
  | .member _, h, s | .url _, h, s =>
    ⟨_, [], by rw [State.extend_nil]; rfl, ShowsWith.of_isPlain h⟩

/-- Placed elements show as the elements, as soon as the depth covers the new objects. -/
theorem placeAll_eq : (items : List Value) → areAllPlain items → (s : State) →
    ∃ placed new, (placeAll items).run.run s = (.ok placed, s.extend new) ∧
      ∀ (t : State) (more : List Object), t.objects = s.objects ++ new ++ more →
        ∀ depth, new.length ≤ depth → placed.map (t.resolveWithin depth) = items
  | [], _, s => ⟨[], [], by rw [State.extend_nil]; rfl, fun _ _ _ _ _ => rfl⟩
  | v :: rest, h, s => by
    rw [areAllPlain, Bool.and_eq_true] at h
    obtain ⟨placed, new, hrun, hshows⟩ := place_eq v h.1 s
    obtain ⟨placed', new', hrun', hshows'⟩ := placeAll_eq rest h.2 (s.extend new)
    -- The objects of the rest come after those of the first element, which shows as before.
    refine ⟨placed :: placed', new ++ new', ?_, ?_⟩
    · rw [placeAll, bind_eq_of_ok hrun, bind_eq_of_ok hrun', State.extend_append]
      rfl
    · intro t more ht depth hdepth
      rw [List.length_append] at hdepth
      rw [List.map_cons, hshows t (new' ++ more) (by rw [ht]; simp) depth (by omega),
        hshows' t more (by rw [ht]; simp [State.extend]) depth (by omega)]

/-- Placed entries show as the entries; keys are plain and stay as they are. -/
theorem placeEntries_eq : (entries : List (Value × Value)) → arePlainEntries entries →
    (s : State) →
    ∃ placed new, (placeEntries entries).run.run s = (.ok placed, s.extend new) ∧
      ∀ (t : State) (more : List Object), t.objects = s.objects ++ new ++ more →
        ∀ depth, new.length ≤ depth →
          (placed.map fun e => (t.resolveWithin depth e.1, t.resolveWithin depth e.2)) = entries
  | [], _, s => ⟨[], [], by rw [State.extend_nil]; rfl, fun _ _ _ _ _ => rfl⟩
  | (k, v) :: rest, h, s => by
    rw [arePlainEntries, Bool.and_eq_true, Bool.and_eq_true] at h
    obtain ⟨placed, new, hrun, hshows⟩ := place_eq v h.1.2 s
    obtain ⟨placed', new', hrun', hshows'⟩ := placeEntries_eq rest h.2 (s.extend new)
    -- As for elements; the key is not placed.
    refine ⟨(k, placed) :: placed', new ++ new', ?_, ?_⟩
    · rw [placeEntries, bind_eq_of_ok hrun, bind_eq_of_ok hrun', State.extend_append]
      rfl
    · intro t more ht depth hdepth
      rw [List.length_append] at hdepth
      rw [List.map_cons, resolveWithin_of_isPlain t depth h.1.1,
        hshows t (new' ++ more) (by rw [ht]; simp) depth (by omega),
        hshows' t more (by rw [ht]; simp [State.extend]) depth (by omega)]

end

end Egress.Session
