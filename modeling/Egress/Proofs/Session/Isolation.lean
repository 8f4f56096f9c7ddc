import Egress.Proofs.Session.Alike

/-!
# Snapshots are isolated

Whatever a session does after a store or a destination was made of plain values, each observation
sees what it saw before: `seen_after_run`. Every step leads to a later state (`precedes_after`), a
snapshot is the same object in every later state, and what an observation sees is determined by that
object (`seen_of_precedes`).
-/

namespace Egress

namespace Session

variable {s t : State}

/-! ## The outcome of an observation -/

/-- What is seen of an answer depends on the objects only. -/
theorem seenIn_of_objects (h : t.objects = s.objects) (a : Answer) : a.seenIn t = a.seenIn s := by
  have hsame : SameContainers s t := ⟨by rw [h], fun id => by unfold State.content?; rw [h]⟩
  have hobject (v : Value) : t.object? v = s.object? v := by
    cases v with
    | ref id => show t.objects[id]? = s.objects[id]?; rw [h]
    | _ => rfl
  cases a with
  | value v => rw [seenIn_value, seenIn_value, hsame.resolve, hobject]
  | _ => rfl

/-- What an observation sees is what is seen of the outcome of its step. -/
theorem seen_eq (o : Observation) (s : State) (self : Value) (ho : o.listsProviders = false) :
    o.seen s self = seenOf ((o.step self).perform.run.run { s with records := [] }) := by
  unfold Observation.seen
  dsimp only
  rw [ho]
  -- A step keeps the state of its action, also where the action fails.
  rcases hr : (o.step self).perform.run.run { s with records := [] } with ⟨r, u⟩
  cases r with
  | ok a =>
    obtain ⟨ha, hu⟩ := step_of_ok none hr
    rw [ha]
    exact seenIn_of_objects hu a
  | error e =>
    rw [step_of_error none hr]
    rfl

/-- What a reading action answers is seen alike when each answer is. -/
theorem seenOf_of_reads {x : Action Answer} (h : Reads s t x)
    (hx : ∀ a, x.run.run s = (.ok a, s) → a.seenIn t = a.seenIn s) :
    seenOf (x.run.run t) = seenOf (x.run.run s) := by
  obtain ⟨r, hs, ht⟩ := h
  rw [hs, ht]
  cases r with
  | ok a => exact hx a hs
  | error e => rfl

/-- An answer made of what is read is seen alike when it is for each thing that is read. -/
theorem seenOf_bind_of_reads {α : Type} {x : Action α} (h : Reads s t x) (f : α → Answer)
    (hf : ∀ a, x.run.run s = (.ok a, s) → (f a).seenIn t = (f a).seenIn s) :
    seenOf ((x >>= fun a => pure (f a) : Action Answer).run.run t) =
      seenOf ((x >>= fun a => pure (f a) : Action Answer).run.run s) := by
  refine seenOf_of_reads (h.bind fun a => ⟨_, rfl, rfl⟩) fun b hb => ?_
  obtain ⟨a, u, ha, hp⟩ := bind_ok hb
  obtain ⟨rfl, rfl⟩ := pure_ok hp
  exact hf a ha

/-! ## Names and conversions as arguments -/

/-- The expression for a name gives a value that names it, now and later. -/
theorem eval_nameExpr (s : State) {name : PropertyName} (h : ∀ v, name = .plain v → v.isPlain) :
    ∃ key u, (nameExpr name).eval.run.run s = (.ok key, u) ∧ s.Precedes u ∧
      ∀ w, u.Precedes w → w.nameOf key = name := by
  cases name with
  | typed k =>
    -- A key becomes an object, which later states still have.
    refine ⟨(s.add (.key k)).1, (s.add (.key k)).2, rfl, s.precedes_add_other rfl, ?_⟩
    intro w hw
    unfold State.nameOf
    rw [hw.object?_eq (s.object?_add_self _) rfl]
  | plain v =>
    -- A plain name stands for itself in every state.
    refine ⟨v, s, rfl, .refl s, ?_⟩
    exact fun w _ => nameOf_of_isPlain w (h v rfl)

/-- A name as the only argument. -/
theorem evalAll_name (s : State) {name : PropertyName} (h : ∀ v, name = .plain v → v.isPlain) :
    ∃ key u, (Expr.evalAll [nameExpr name]).run.run s = (.ok [key], u) ∧ s.Precedes u ∧
      u.nameOf key = name := by
  obtain ⟨key, u, hkey, hu, hname⟩ := eval_nameExpr s h
  refine ⟨key, u, ?_, hu, hname u (.refl u)⟩
  rw [Expr.evalAll, bind_eq_of_ok hkey]
  rfl

/-- The expression for a conversion gives a value that stands for it. -/
theorem eval_conversion (s : State) (conversion : Option Conversion) :
    ∃ vs u, (Expr.evalAll (conversion.toList.map .conversion)).run.run s = (.ok vs, u) ∧
      s.Precedes u ∧ u.conversionOf (vs.getD 0 .null) = conversion := by
  cases conversion with
  | none => exact ⟨[], s, rfl, .refl s, rfl⟩
  | some f =>
    refine ⟨[(s.add (.conversion f)).1], (s.add (.conversion f)).2, rfl,
      s.precedes_add_other rfl, ?_⟩
    -- The conversion is the object that was added.
    show State.conversionOf _ (s.add (.conversion f)).1 = _
    unfold State.conversionOf
    rw [s.object?_add_self]

/-- The name and the conversion of a reading step are what they stand for. -/
theorem evalAll_get (s : State) {name : PropertyName} (conversion : Option Conversion)
    (h : ∀ v, name = .plain v → v.isPlain) :
    ∃ key vs u, (Expr.evalAll (nameExpr name :: conversion.toList.map .conversion)).run.run s =
        (.ok (key :: vs), u) ∧
      s.Precedes u ∧ u.nameOf key = name ∧ u.conversionOf (vs.getD 0 .null) = conversion := by
  obtain ⟨key, u, hkey, hu, hname⟩ := eval_nameExpr s h
  obtain ⟨vs, w, hvs, hw, hconversion⟩ := eval_conversion u conversion
  refine ⟨key, vs, w, ?_, hu.trans hw, hname w hw, hconversion⟩
  rw [Expr.evalAll, bind_eq_of_ok hkey, bind_eq_of_ok hvs]
  rfl

/-! ## Calls -/

/-- A call on a value evaluates its arguments only. -/
theorem perform_call_value (method : Method) (v : Value) (args : List Expr) :
    (Step.call method (.value v) args).perform =
      (Expr.evalAll args >>= fun vs => call method v vs) := by
  rw [Step.perform, Expr.eval, pure_bind]

/-- What is seen of a get on a plain store is the outcome of the read. -/
theorem seenOf_callProperties_get {p : Properties} (h : p.isPlain) (s : State) (args : List Value) :
    seenOf ((callProperties p .get args).run.run s) = plainSeen (readOutcome p.entries
      (s.nameOf (args.getD 0 .null)) (s.conversionOf (args.getD 1 .null))) :=
  seenOf_readEntry h s _ _

/-- Reading a property of a plain destination, which takes no conversion. -/
theorem seenOf_callDestination_get {d : Destination} (h : d.properties.isPlain) (c : Value)
    (s : State) (args : List Value) :
    seenOf ((callDestination d c .get args).run.run s) =
      plainSeen (readOutcome d.properties.entries (s.nameOf (args.getD 0 .null)) none) :=
  seenOf_readEntry h s _ _

/-- A method of a plain store without arguments. -/
theorem seenOf_callProperties {p : Properties} (h : p.isPlain) (method : Method) (s t : State) :
    seenOf ((callProperties p method []).run.run t) =
      seenOf ((callProperties p method []).run.run s) := by
  -- Where an argument is missing, it is null, which names itself in every state.
  have hnull (u : State) : u.nameOf .null = .plain .null := nameOf_of_isPlain u rfl
  cases method with
  | get =>
    have hread (u : State) := seenOf_callProperties_get h u []
    have hname (u : State) : u.nameOf (([] : List Value).getD 0 .null) = .plain .null := hnull u
    rw [hread t, hread s, hname, hname]
    rfl
  | contains =>
    have hhas (u : State) := seenOf_hasEntry p.entries u .null
    have hread (u : State) : seenOf ((callProperties p .contains []).run.run u) =
      plainSeen (containsOutcome p.entries (.plain .null)) := by
      rw [← hnull u]
      exact hhas u
    rw [hread t, hread s]
  | propertyNames =>
    -- A container is placed anew in each state, and shows the same.
    have hplace := seenOf_place (Properties.isPlain_names h)
    exact (hplace t).trans (hplace s).symm
  | asDict =>
    have hplace := seenOf_place (v := .map .mutable p.entries) h
    exact (hplace t).trans (hplace s).symm
  | _ => rfl

/-- A method of a plain destination without arguments, other than the one that lists providers. -/
theorem seenOf_callDestination {d : Destination} {c : Value} (h : d.isPlain)
    (hc : SeenAlike s t c) (method : Method)
    (hm : (Observation.call method).listsProviders = false) :
    seenOf ((callDestination d c method []).run.run t) =
      seenOf ((callDestination d c method []).run.run s) := by
  have hp := Destination.isPlain_properties h
  cases method with
  -- Either outcome of the two conversions is plain, so neither depends on the state.
  | uri =>
    have huri (u : State) : seenOf ((callDestination d c .uri []).run.run u) =
        plainSeen ((d.uri.map .url).mapError .destination) := by
      unfold callDestination
      dsimp only
      cases d.uri with
      | error e => rfl
      | ok a => exact seenOf_pure rfl u
    rw [huri t, huri s]
  | tlsVersion =>
    have htls (u : State) : seenOf ((callDestination d c .tlsVersion []).run.run u) =
        plainSeen ((d.tlsVersion.map fun v => v.elim .null .text).mapError
          (.destination ∘ .property)) := by
      unfold callDestination
      dsimp only
      cases d.tlsVersion with
      | error e => rfl
      | ok a => cases a <;> exact seenOf_pure rfl u
    rw [htls t, htls s]
  | ownHeaders => exact seenAlike_headers h s t
  | ownProviders => cases hm
  | proxyConfiguration => exact hc
  | get =>
    have hname (u : State) : u.nameOf (([] : List Value).getD 0 .null) = .plain .null :=
      nameOf_of_isPlain u rfl
    rw [seenOf_callDestination_get hp c t, seenOf_callDestination_get hp c s, hname, hname]
  | propertyNames =>
    have hplace := seenOf_place (Properties.isPlain_names hp)
    exact (hplace t).trans (hplace s).symm
  | proxyType | trustsAll | authenticationType =>
    exact (seenOf_pure rfl t).trans (seenOf_pure rfl s).symm
  | arbitraryProperty =>
    have hfail (u : State) : seenOf ((callDestination d c .arbitraryProperty []).run.run u) =
        ⟨.failed (.destination (.unsupported (.property (u.resolve .null)))), none⟩ := rfl
    rw [hfail t, hfail s, resolve_of_isPlain t rfl, resolve_of_isPlain s rfl]
  | _ => rfl

/-! ## Snapshots -/

/-- A snapshot stands for the same thing later on. -/
theorem State.Snapshot.alike {id : Nat} {o : Object} (hs : s.Snapshot id o)
    (hst : s.Precedes t) : Alike s t (.ref id) := by
  apply alike_of_object? hst hs.object (Object.isLasting_of_isSnapshot hs.plain)
  intro d p c ho
  have hplain := hs.plain
  rw [ho] at hplain
  exact hplain

/-- What stays what it is stands for the same thing later on. -/
theorem State.Fixed.alike {r : State} {v : Value} (h : r.Fixed v) (hrs : r.Precedes s)
    (hst : s.Precedes t) : Alike s t v := by
  -- Plain values and lasting objects stay as they are; a snapshot is followed from the state it was
  -- taken in.
  cases h with
  | plain h => exact alike_of_isPlain s t h
  | @constant _ o h ho =>
    have hl : o.isLasting := by
      cases o <;> first | rfl | cases ho
    apply alike_of_object? hst (hrs.object?_eq h hl) hl
    intro d p c hd
    rw [hd] at ho
    cases ho
  | snapshot h =>
    obtain ⟨o, ho⟩ := snapshot_of_madeOfPlain h
    exact (ho.later hrs).alike hst

/-- The proxy configuration of a destination is seen alike later on. -/
theorem State.Linked.seenAlike_proxy {d : Destination} {p c : Value} (h : s.Linked d p c)
    (hst : s.Precedes t) : SeenAlike s t c := by
  obtain ⟨rfl, -⟩ | ⟨x, k, hx, -⟩ := h.proxy
  · exact (alike_of_isPlain s t rfl).seen
  · exact (alike_of_object? hst hx rfl fun _ _ _ h => by cases h).seen

/-- The store of a plain destination is seen alike. -/
theorem State.Linked.seenAlike_properties {d : Destination} {p c : Value} (h : s.Linked d p c)
    (hst : s.Precedes t) : SeenAlike s t p :=
  (alike_of_object? hst h.properties rfl fun _ _ _ h => by cases h).seen

/-- A method of a snapshot without arguments sees the same later on. -/
theorem seenOf_call {id : Nat} {o : Object} (hs : s.Snapshot id o) (hst : s.Precedes t)
    (method : Method) (hm : (Observation.call method).listsProviders = false) :
    seenOf ((call method (.ref id) []).run.run t) =
      seenOf ((call method (.ref id) []).run.run s) := by
  have ht := hs.later hst
  cases o with
  -- A call on a snapshot looks at nothing but the snapshot.
  | properties p =>
    rw [call_properties ht.object, call_properties hs.object]
    exact seenOf_callProperties hs.plain method s t
  | destination d p c =>
    rw [call_destination ht.object, call_destination hs.object]
    exact seenOf_callDestination hs.plain ((hs.linked d p c rfl).seenAlike_proxy hst) method hm
  | _ => cases hs.plain

/-- A part of a snapshot, other than its providers, is seen alike. -/
theorem seenAlike_of_partOf {id : Nat} {o : Object} {v : Value} {name : String}
    (hs : s.Snapshot id o) (hst : s.Precedes t)
    (hn : (Observation.part name).listsProviders = false)
    (h : (partOf (.ref id) name).run.run s = (.ok v, s)) : SeenAlike s t v := by
  obtain ⟨_, _, hget, hpart⟩ := bind_ok h
  cases hget
  clear h
  rw [hs.object] at hpart
  cases o with
  | properties p =>
    -- a store has no parts
    split at hpart
    all_goals first | (rename_i heq; cases heq) | cases hpart
  | destination d p c =>
    have hl := hs.linked d p c rfl
    split at hpart
    · rename_i heq
      cases heq
      cases hpart
      exact hl.seenAlike_properties hst
    · rename_i heq
      cases heq
      cases hpart
      exact seenAlike_headers hs.plain s t
    · cases hn
    · rename_i heq
      cases heq
      cases hpart
      exact hl.seenAlike_proxy hst
    all_goals first | (rename_i heq; cases heq) | cases hpart
  | _ => cases hs.plain

section Reading

variable {v : Value} {name : PropertyName} {p : Properties} {d : Destination} {q c : Value}

/-- A property that is read from a store. -/
theorem seenOf_get_properties (hv : s.object? v = some (.properties p)) (hp : p.isPlain)
    (hname : ∀ w, name = .plain w → w.isPlain) (conversion : Option Conversion) :
    seenOf (((Observation.get name conversion).step v).perform.run.run s) =
      plainSeen (readOutcome p.entries name conversion) := by
  obtain ⟨key, vs, u, hargs, hsu, hkey, hconversion⟩ := evalAll_get s conversion hname
  show seenOf ((Step.call .get (.value v) _).perform.run.run s) = _
  rw [perform_call_value, bind_eq_of_ok hargs, call_properties (hsu.object?_eq hv rfl),
    seenOf_callProperties_get hp]
  show plainSeen (readOutcome p.entries (u.nameOf key) (u.conversionOf (vs.getD 0 .null))) = _
  rw [hkey, hconversion]

/-- What is seen of a get on a plain destination is the outcome of the read. -/
theorem seenOf_get_destination (hv : s.object? v = some (.destination d q c)) (hd : d.isPlain)
    (hname : ∀ w, name = .plain w → w.isPlain) (conversion : Option Conversion) :
    seenOf (((Observation.get name conversion).step v).perform.run.run s) =
      plainSeen (readOutcome d.properties.entries name none) := by
  obtain ⟨key, vs, u, hargs, hsu, hkey, -⟩ := evalAll_get s conversion hname
  show seenOf ((Step.call .get (.value v) _).perform.run.run s) = _
  rw [perform_call_value, bind_eq_of_ok hargs, call_destination (hsu.object?_eq hv rfl),
    seenOf_callDestination_get (Destination.isPlain_properties hd)]
  show plainSeen (readOutcome d.properties.entries (u.nameOf key) none) = _
  rw [hkey]

/-- A name that is looked for in a store. -/
theorem seenOf_contains_properties (hv : s.object? v = some (.properties p))
    (hname : ∀ w, name = .plain w → w.isPlain) :
    seenOf (((Observation.contains name).step v).perform.run.run s) =
      plainSeen (containsOutcome p.entries name) := by
  obtain ⟨key, u, hargs, hsu, hkey⟩ := evalAll_name s hname
  show seenOf ((Step.call .contains (.value v) _).perform.run.run s) = _
  rw [perform_call_value, bind_eq_of_ok hargs, call_properties (hsu.object?_eq hv rfl)]
  have hhas := seenOf_hasEntry p.entries u key
  rw [hkey] at hhas
  exact hhas

/-- A destination does not tell which names it has. -/
theorem seenOf_contains_destination (hv : s.object? v = some (.destination d q c))
    (hname : ∀ w, name = .plain w → w.isPlain) :
    seenOf (((Observation.contains name).step v).perform.run.run s) =
      ⟨.failed (.noPart destinationKind ""), none⟩ := by
  obtain ⟨key, u, hargs, hsu, -⟩ := evalAll_name s hname
  show seenOf ((Step.call .contains (.value v) _).perform.run.run s) = _
  rw [perform_call_value, bind_eq_of_ok hargs, call_destination (hsu.object?_eq hv rfl)]
  rfl

end Reading

/-- A length is plain. -/
theorem isPlain_of_lengthOf {v w : Value} (h : (lengthOf v).run.run s = (.ok w, t)) :
    w.isPlain := by
  obtain ⟨items, u, -, h⟩ := bind_ok h
  cases items with
  | none => cases h
  | some items =>
    obtain ⟨rfl, -⟩ := pure_ok h
    rfl

/-- The elements of a plain store are its names; a destination has none. -/
theorem isPlain_of_elements? {id : Nat} {o : Object} {items : List Value} (hs : s.Snapshot id o)
    (h : s.elements? (.ref id) = some items) : Value.areAllPlain items := by
  unfold State.elements? at h
  rw [hs.object] at h
  cases o with
  | properties p =>
    cases h
    exact Properties.isPlain_names hs.plain
  | destination d p c => cases h
  | _ => cases hs.plain

/-- What is seen of a snapshot stays as it is, where the answer is no list of providers. -/
theorem seenOf_perform {r : State} {id : Nat} {ob : Object} (hs : s.Snapshot id ob)
    (hrs : r.Precedes s) (hst : s.Precedes t) {o : Observation} (ho : o.IsFixed r)
    (hn : o.listsProviders = false) :
    seenOf ((o.step (.ref id)).perform.run.run t) =
      seenOf ((o.step (.ref id)).perform.run.run s) := by
  have hself := hs.alike hst
  have ht := hs.later hst
  -- Methods, reads and questions about names follow the kind of the snapshot; all other
  -- observations read it and another fixed value at most.
  cases o with
  | call method => exact seenOf_call hs hst method hn
  | get name conversion =>
    have hname (w : Value) (hw : name = .plain w) : w.isPlain := by
      rw [hw] at ho
      exact ho
    cases ob with
    | properties p =>
      rw [seenOf_get_properties hs.object hs.plain hname,
        seenOf_get_properties ht.object ht.plain hname]
    | destination d p c =>
      rw [seenOf_get_destination hs.object hs.plain hname,
        seenOf_get_destination ht.object ht.plain hname]
    | _ => cases hs.plain
  | contains name =>
    -- The name is fixed, so it is plain unless it is a key.
    have hname (w : Value) (hw : name = .plain w) : w.isPlain := by
      rw [hw] at ho
      exact ho
    cases ob with
    | properties p =>
      rw [seenOf_contains_properties hs.object hname, seenOf_contains_properties ht.object hname]
    | destination d p c =>
      rw [seenOf_contains_destination hs.object hname,
        seenOf_contains_destination ht.object hname]
    | _ => cases hs.plain
  | part name =>
    exact seenOf_bind_of_reads (Reads.partOf hself name) .value fun v hv =>
      seenAlike_of_partOf hs hst hn hv
  | literal =>
    exact seenOf_bind_of_reads (Reads.literalOf hself) (fun s => .value (.text s)) fun _ _ =>
      (alike_of_isPlain s t rfl).seen
  | length =>
    refine seenOf_bind_of_reads (Reads.lengthOf hself) .value fun v hv => ?_
    exact (alike_of_isPlain s t (isPlain_of_lengthOf hv)).seen
  | elements =>
    refine seenOf_bind_of_reads (Reads.requireElements hself)
      (fun items => .value (.seq .mutable items)) fun items hitems => ?_
    have hplain := isPlain_of_elements? hs (requireElements_ok hitems).1
    exact (alike_of_isPlain s t (v := .seq .mutable items) hplain).seen
  | equals other =>
    exact seenOf_bind_of_reads (Reads.equal hself (State.Fixed.alike ho hrs hst)) .comparison
      fun _ _ => rfl
  | isEqualTo other =>
    exact seenOf_bind_of_reads (Reads.equal (State.Fixed.alike ho hrs hst) hself) .comparison
      fun _ _ => rfl
  | sameHash other =>
    have hother := State.Fixed.alike ho hrs hst
    -- The digest of the snapshot is taken first, then that of the other value.
    have hstep : ((Observation.sameHash other).step (.ref id)).perform = (do
        let d ← digestOf (.ref id)
        return .value (.bool (d == (← digestOf other)))) := rfl
    rw [hstep]
    refine seenOf_of_reads ((Reads.digestOf hself).bind fun d =>
      (Reads.digestOf hother).bind fun e => ⟨_, rfl, rfl⟩) fun a ha => ?_
    obtain ⟨d, u, -, h₁⟩ := bind_ok ha
    obtain ⟨e, w, -, h₂⟩ := bind_ok h₁
    obtain ⟨rfl, -⟩ := pure_ok h₂
    exact (alike_of_isPlain s t rfl).seen

/-- Listing the providers of a snapshot leaves the state and gives the same list. -/
theorem reads_of_listsProviders {id : Nat} {ob : Object} (hs : s.Snapshot id ob)
    (hst : s.Precedes t) {o : Observation} (hn : o.listsProviders) :
    Reads s t (o.step (.ref id)).perform := by
  have ht := hs.later hst
  -- Only one method lists providers, and one part of a destination.
  cases o with
  | call method =>
    cases method with
    | ownProviders =>
      show Reads s t (call .ownProviders (.ref id) [])
      unfold Reads
      cases ob with
      | properties p =>
        rw [call_properties hs.object, call_properties ht.object]
        exact ⟨_, rfl, rfl⟩
      | destination d p c =>
        rw [call_destination hs.object, call_destination ht.object]
        exact ⟨_, rfl, rfl⟩
      | _ => cases hs.plain
    | _ => cases hn
  | part name => exact (Reads.partOf (hs.alike hst) name).bind fun v => ⟨_, rfl, rfl⟩
  | _ => cases hn

/-- A snapshot looks the same in every later state. -/
theorem seen_of_precedes {id : Nat} (h : MadeOfPlain s id) (hst : s.Precedes t)
    {o : Observation} (ho : o.IsFixed s) : o.seen t (.ref id) = o.seen s (.ref id) := by
  obtain ⟨ob, hs⟩ := snapshot_of_madeOfPlain h
  -- A step starts with no records, which makes no difference to the objects.
  have hs₀ : s.Precedes { s with records := [] } := .of_objects rfl
  have hs₁ : State.Precedes { s with records := [] } s := .of_objects rfl
  have ht₁ : t.Precedes { t with records := [] } := .of_objects rfl
  cases hn : o.listsProviders with
  | false =>
    rw [seen_eq o t _ hn, seen_eq o s _ hn]
    exact seenOf_perform (hs.later hs₀) hs₀ (hs₁.trans (hst.trans ht₁)) ho hn
  | true =>
    obtain ⟨r, hr, hr'⟩ :=
      reads_of_listsProviders (hs.later hs₀) (hs₁.trans (hst.trans ht₁)) hn
    unfold Observation.seen
    rw [hn]
    dsimp only
    cases r with
    | ok a => rw [(step_of_ok none hr).1, (step_of_ok none hr').1]; rfl
    | error e => rw [step_of_error none hr, step_of_error none hr']; rfl

/-! ## Runs -/

/-- **Isolation.** A store or a destination made of plain values looks the same after every run. -/
theorem seen_after_run {id : Nat} (h : MadeOfPlain s id)
    (commands : List (Step × Option String)) {o : Observation} (ho : o.IsFixed s) :
    o.seen (s.after commands) (.ref id) = o.seen s (.ref id) :=
  seen_of_precedes h (precedes_after s commands) ho

/-- A list, a set and bytes are made, and a store of them. -/
def madeOfContainers : List (Step × Option String) :=
  [(.view (.seq .mutable [.value (.int 1)]), some "hosts"),
    (.view (.set .mutable [.value (.text "a")]), some "names"),
    (.view (.byteArray [7]), some "data"),
    (.create .properties [.map [(.value (.text "Hosts"), .var "hosts"),
      (.value (.text "Names"), .var "names"), (.value (.text "Data"), .var "data")]],
      some "store")]

/-- Each of the containers is changed. -/
def containerChanges : List (Step × Option String) :=
  [(.call .append (.var "hosts") [.value (.int 2)], none),
    (.call (.change .add) (.var "names") [.value (.text "b")], none),
    (.setItem (.var "data") (.value (.int 0)) (.value (.int 9)), none),
    (.deleteItem (.var "hosts") (.value (.int 0)), none)]

/-- The containers that a store was made of hold other elements, which the store never sees. -/
theorem seen_after_run_append :
    MadeOfPlain (State.after {} madeOfContainers) 4 ∧
      (Observation.call .asDict).IsFixed (State.after {} madeOfContainers) ∧
      (Observation.call .asDict).seen
          ((State.after {} madeOfContainers).after containerChanges) (.ref 4) =
        ⟨.value (.map .mutable [(.text "Hosts", .seq .frozen [.int 1]),
          (.text "Names", .set .frozen [.text "a"]), (.text "Data", .bytes .frozen [7])]), none⟩ ∧
      [0, 1, 2].map (fun i =>
          ((State.after {} madeOfContainers).after containerChanges).resolve (.ref i)) =
        [.seq .mutable [.int 2], .set .mutable [.text "a", .text "b"], .bytes .mutable [9]] := by
  -- The arguments are evaluated to the dictionary, behind the three containers.
  have hargs : Evaluates (State.after {} (madeOfContainers.take 3))
      [.map [(.value (.text "Hosts"), .var "hosts"), (.value (.text "Names"), .var "names"),
        (.value (.text "Data"), .var "data")]] [.ref 3]
      { objects := [.container (.seq .mutable [.int 1]), .container (.set .mutable [.text "a"]),
          .container (.bytes .mutable [7]), .container (.map .mutable
            [(.text "Hosts", .ref 0), (.text "Names", .ref 1), (.text "Data", .ref 2)])]
        names := [("data", .ref 2), ("names", .ref 1), ("hosts", .ref 0)] } := by
    rfl
  have h : MadeOfPlain (State.after {} madeOfContainers) 4 := .store hargs rfl rfl
  have ho : (Observation.call .asDict).IsFixed (State.after {} madeOfContainers) := trivial
  exact ⟨h, ho, (seen_after_run h containerChanges ho).trans rfl, rfl⟩

end Session

end Egress
