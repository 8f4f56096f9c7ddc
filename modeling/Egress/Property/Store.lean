import Egress.Property.Key

/-! # Property stores

A store holds values under names, in the order of their first assignment. `Properties` is the
frozen store of a destination; every value in it is frozen on the way in, so that nothing outside
leads into it. `Draft` is the store of a builder, which keeps values as they were given.

* `Properties.ofEntries`   a frozen store
* `Properties.get?`, `Draft.get?`, `Properties.read?`   raw and typed reads
* `Draft.put`, `Draft.erase`   assignments and removals -/

namespace Egress

/-- A frozen store of properties. -/
structure Properties where
  -- Names and values, in order.
  entries : List (Value × Value)
  deriving Inhabited, Repr

namespace Properties

/-- The store of the given names and values, with every value frozen. -/
def ofEntries (entries : List (Value × Value)) : Properties := ⟨Value.freezeEntries entries⟩

/-- The names, in order. -/
def names (p : Properties) : List Value := p.entries.map (·.1)

/-- The value under a name. -/
def get? (p : Properties) (name : Value) : Option Value := Value.entry? p.entries name

/-- The value under a typed key, read at its type. -/
def read? (p : Properties) (key : PropertyKey) : Except PropertyError (Option Value) :=
  match p.get? (.text key.name) with
  | none => .ok none
  | some v => (key.read v).map some

/-- The text under a key whose type is text. -/
def readText? (p : Properties) (key : PropertyKey) : Except PropertyError (Option String) :=
  match p.get? (.text key.name) with
  | none => .ok none
  | some v => match PropertyType.readText v with
    | .ok s => .ok (some s)
    | .error fault => .error ⟨key, fault⟩

/-- The integer under a key whose type is integer. -/
def readInteger? (p : Properties) (key : PropertyKey) : Except PropertyError (Option Int) :=
  match p.get? (.text key.name) with
  | none => .ok none
  | some v => match PropertyType.readInteger v with
    | .ok n => .ok (some n)
    | .error fault => .error ⟨key, fault⟩

/-- Two stores are equal when they hold equal values under equal names, in any order. -/
def eqv (p q : Properties) : Except UrlError Bool :=
  (Value.map .mutable p.entries).eqv (.map .mutable q.entries)

/-- Equal stores share their digest, which is that of their names. -/
def digest (p : Properties) : Except Unhashable String := (Value.set .frozen p.names).digest

/-- The store as it would be written down. -/
def literal (p : Properties) : String :=
  "DestinationProperties(" ++ (Value.map .mutable p.entries).literal ++ ")"

end Properties

/-- A store under construction. -/
structure Draft where
  -- Names and values, in order.
  entries : List (Value × Value) := []
  deriving Inhabited, Repr

namespace Draft

/-- Whether a name is assigned. -/
def contains (d : Draft) (name : Value) : Bool := (Value.entry? d.entries name).isSome

/-- The value under a name. -/
def get? (d : Draft) (name : Value) : Option Value := Value.entry? d.entries name

/-- Assigns a value to a name; a name that was assigned before keeps its place. -/
def put (d : Draft) (name value : Value) : Draft := ⟨Value.putEntry d.entries name value⟩

/-- Removes a name. -/
def erase (d : Draft) (name : Value) : Draft := ⟨Value.eraseEntry d.entries name⟩

/-- The frozen store of the present assignments, each value read by `look`. -/
def build (d : Draft) (look : Value → Value) : Properties :=
  .ofEntries (d.entries.map fun e => (e.1, look e.2))

end Draft

end Egress
