import Egress.Session.State

/-! # Changing containers

What the ways to change a container make of its content, and what they answer. A change that fails
leaves the content as it was, except that a set or a dictionary keeps the elements that were put in
before the one that cannot be.

* `Sequence.changed`    lists and byte arrays, by position
* `State.changedSet`, `State.changedMap`   sets and dictionaries
* `State.changed`       any container -/

namespace Egress.Session

/-- The failure of a change. -/
def Failure.ofChange (e : ChangeFault) : Failure := .conversion (.change e)

/-- The integer that something stands for. -/
def State.integer (s : State) (v : Value) : Except Failure Int :=
  match v.integer? with
  | some n => .ok n
  | none => .error (.ofChange (.notInteger (s.typeName v)))

/-- The elements of a value or of a store. -/
def State.elements? (s : State) (v : Value) : Option (List Value) :=
  match s.object? v with
  | some (.properties p) => some p.names
  | some (.container c) => c.elements?
  | _ => v.elements?

/-! ## Sequences -/

/-- A kind of sequence that can be changed. -/
structure Sequence (α : Type) where
  typeName : String
  -- An element that something stands for.
  read : State → Value → Except Failure α
  shown : α → Value
  -- Whether an element is the one that is looked for.
  same : State → α → α → Except Failure Bool
  -- The elements that can take the place of all.
  assignable? : State → Value → Option (List Value)
  -- Why other elements cannot be assigned, and why something cannot be added.
  unassignable : State → Value → Failure
  extension : String → Failure
  -- Why a position is none, by the word for its type or by its size.
  badIndex : String → Failure
  outOfRange : Failure
  notFound : Failure

namespace Sequence

variable {α : Type}

/-- The place of a position, which may be counted from the end. -/
def place? (length : Nat) (n : Int) : Option Nat :=
  let i := if n < 0 then n + length else n
  if 0 ≤ i ∧ i < length then some i.toNat else none

/-- The place at which something is inserted: the nearest to a position. -/
def insertionPlace (length : Nat) (n : Int) : Nat :=
  min length (if n < 0 then n + length else n).toNat

/-- The position of an element that is assigned or deleted. -/
def position (k : Sequence α) (s : State) (v : Value) : Except Failure Int :=
  v.integer?.elim (.error (k.badIndex (s.typeName v))) .ok

/-- The place of a position that is assigned or deleted. -/
def assignedPlace (k : Sequence α) (length : Nat) (n : Int) : Except Failure Nat :=
  (place? length n).elim (.error k.outOfRange) .ok

/-- The place of the first element that is the one that is looked for. -/
def find? (k : Sequence α) (s : State) (x : α) : List α → Except Failure (Option Nat)
  | [] => .ok none
  | y :: rest => do
    if ← k.same s y x then return some 0
    else return (← find? k s x rest).map (· + 1)

/-- A sequence after a change, and the answer. -/
def changed (k : Sequence α) (s : State) (items : List α) (c : Change) (args : List Value) :
    Except Failure (List α × Value) :=
  let arg (i : Nat) : Value := args.getD i .null
  match c with
  | .append => do return (items ++ [← k.read s (arg 0)], .null)
  | .extend => match s.elements? (arg 0) with
    | none => .error (k.extension (s.typeName (arg 0)))
    | some more => do return (items ++ (← more.mapM (k.read s)), .null)
  | .setAll => match k.assignable? s (arg 0) with
    | none => .error (k.unassignable s (arg 0))
    | some all => do return (← all.mapM (k.read s), .null)
  | .insert => do
    let place := insertionPlace items.length (← s.integer (arg 0))
    return (items.insertIdx place (← k.read s (arg 1)), .null)
  | .pop => do
    let n ← if args.isEmpty then .ok (-1) else s.integer (arg 0)
    if items.isEmpty then .error (.ofChange (.empty k.typeName))
    match (place? items.length n).bind fun i => items[i]?.map fun x => (items.eraseIdx i, x) with
    | none => .error (.ofChange .popRange)
    | some (rest, x) => return (rest, k.shown x)
  | .setItem => do
    let n ← k.position s (arg 0)
    let x ← k.read s (arg 1)
    return (items.set (← k.assignedPlace items.length n) x, .null)
  | .deleteItem => do
    let n ← k.position s (arg 0)
    return (items.eraseIdx (← k.assignedPlace items.length n), .null)
  | .remove => do
    match ← k.find? s (← k.read s (arg 0)) items with
    | none => .error k.notFound
    | some place => return (items.eraseIdx place, .null)
  | .reverse => .ok (items.reverse, .null)
  | .clear => .ok ([], .null)
  | c => .error (.ofChange (.unsupported k.typeName c))

end Sequence

/-- Lists. -/
def lists : Sequence Value where
  typeName := "list"
  read := fun _ v => .ok v
  shown := id
  same := fun s a b => ((s.resolve a).eqvItem (s.resolve b)).mapError .url
  assignable? := State.elements?
  unassignable := fun _ _ => .ofChange .noElements
  extension := fun t => .conversion (.notIterable t)
  badIndex := .badIndex
  outOfRange := .outOfRange
  notFound := .ofChange .notListed

/-- The byte that something stands for. -/
def State.byte (s : State) (v : Value) : Except Failure UInt8 := do
  let n ← s.integer v
  if 0 ≤ n ∧ n < 256 then return UInt8.ofNat n.toNat else .error (.ofChange .notByte)

/-- Byte arrays. -/
def byteArrays : Sequence UInt8 where
  typeName := "bytearray"
  read := State.byte
  shown := fun b => .int b.toNat
  same := fun _ a b => .ok (a == b)
  -- The characters of a text are not taken for bytes.
  assignable? := fun s v => if v.text?.isSome then none else s.elements? v
  unassignable := fun s v => .ofChange
    (if v.integer?.isSome ∨ v.text?.isSome then .noBytes else .inconvertible (s.typeName v))
  extension := fun t => .ofChange (.extension t)
  badIndex := fun t => .ofChange (.badIndex "bytearray" t)
  outOfRange := .ofChange (.outOfRange "bytearray")
  notFound := .ofChange .notInBytes

/-! ## Sets and dictionaries -/

/-- Something as an element of a set or as a key, which must be hashable. -/
def State.hashed (s : State) (v : Value) : Except Failure Value :=
  let v := s.resolve v
  (v.digest.mapError .unhashable).map fun _ => v

/-- Something that is looked for in a set. A set is looked for as a frozen one. -/
def State.soughtItem (s : State) (v : Value) : Except Failure Value :=
  match s.resolve v with
  | .set _ items => .ok (.set .frozen items)
  | _ => s.hashed v

/-- A set with the elements that can be added up to the first that cannot, and the failure of
that. -/
def State.addItems (s : State) (items : List Value) : List Value → List Value × Except Failure Value
  | [] => (items, .ok .null)
  | v :: rest => match s.hashed v with
    | .error e => (items, .error e)
    | .ok v => s.addItems (Value.addItem items v) rest

/-- A set after a change, and the answer. -/
def State.changedSet (s : State) (items : List Value) (c : Change) (args : List Value) :
    List Value × Except Failure Value :=
  let arg (i : Nat) : Value := args.getD i .null
  let without (required : Bool) : List Value × Except Failure Value :=
    match s.soughtItem (arg 0) with
    | .error e => (items, .error e)
    | .ok v =>
      if required && !items.any (Value.sameKey · v) then
        (items, .error (.ofChange (.missing (s.resolve (arg 0)).literal)))
      else (items.filter (!Value.sameKey · v), .ok .null)
  match c with
  | .add => s.addItems items [arg 0]
  | .update => match s.elements? (arg 0) with
    | none => (items, .error (.conversion (.notIterable (s.typeName (arg 0)))))
    | some more => s.addItems items more
  | .discard => without false
  | .remove => without true
  | .popAny choice => match items[choice % items.length]? with
    | none => (items, .error (.ofChange (.emptySet)))
    | some v => (items.eraseIdx (choice % items.length), .ok v)
  | .clear => ([], .ok .null)
  | c => (items, .error (.ofChange (.unsupported "set" c)))

/-- A dictionary with the pairs that can be put in up to the first that cannot, and the failure of
that. The first of them has a place. -/
def State.putPairs (s : State) (entries : List (Value × Value)) (place : Nat) :
    List Value → List (Value × Value) × Except Failure Value
  | [] => (entries, .ok .null)
  | pair :: rest => match s.elements? pair with
    | none => (entries, .error (.ofChange (.noPair place)))
    | some [k, v] => match s.hashed k with
      | .error e => (entries, .error e)
      | .ok k => s.putPairs (Value.putEntry entries k v) (place + 1) rest
    | some parts => (entries, .error (.ofChange (.pairLength place parts.length)))

/-- The entries of a dictionary or of a frozen map. -/
def State.entries? (s : State) (v : Value) : Option (List (Value × Value)) :=
  match s.object? v, v with
  | some (.container (.map _ entries)), _ => some entries
  | none, .map _ entries => some entries
  | _, _ => none

/-- A dictionary after a change, and the answer. -/
def State.changedMap (s : State) (entries : List (Value × Value)) (c : Change) (args : List Value) :
    List (Value × Value) × Except Failure Value :=
  let arg (i : Nat) : Value := args.getD i .null
  let missing : Failure := .ofChange (.missing (s.resolve (arg 0)).literal)
  let withKey (f : Value → List (Value × Value) × Except Failure Value) :
      List (Value × Value) × Except Failure Value :=
    match s.hashed (arg 0) with
    | .error e => (entries, .error e)
    | .ok k => f k
  let takeOut (otherwise : Except Failure Value) : List (Value × Value) × Except Failure Value :=
    withKey fun k => match Value.entry? entries k with
      | none => (entries, otherwise)
      | some v => (Value.eraseEntry entries k, .ok v)
  match c with
  | .setItem => withKey fun k => (Value.putEntry entries k (arg 1), .ok .null)
  | .deleteItem => let (rest, answer) := takeOut (.error missing); (rest, answer.map fun _ => .null)
  | .pop =>
    let otherwise := args[1]?.elim (.error missing) .ok
    -- the key is not looked at if there is no entry
    if entries.isEmpty then (entries, otherwise) else takeOut otherwise
  | .popEntry => match entries.getLast? with
    | none => (entries, .error (.ofChange (.emptyMap)))
    | some e => (entries.dropLast, .ok (.seq .frozen [e.1, e.2]))
  | .setDefault => withKey fun k => match Value.entry? entries k with
    | some v => (entries, .ok v)
    | none => (Value.putEntry entries k (arg 1), .ok (arg 1))
  | .update => match s.entries? (arg 0), s.elements? (arg 0) with
    | some more, _ => (more.foldl (fun m e => Value.putEntry m e.1 e.2) entries, .ok .null)
    | none, some pairs => s.putPairs entries 0 pairs
    | none, none => (entries, .error (.conversion (.notIterable (s.typeName (arg 0)))))
  | .clear => ([], .ok .null)
  | c => (entries, .error (.ofChange (.unsupported "dict" c)))

/-! ## Containers -/

/-- The content of a container after a change, and the answer. -/
def State.changed (s : State) (content : Value) (c : Change) (args : List Value) :
    Value × Except Failure Value :=
  match content with
  | .seq access items => match lists.changed s items c args with
    | .error e => (content, .error e)
    | .ok (items, v) => (.seq access items, .ok v)
  | .bytes access data => match byteArrays.changed s data c args with
    | .error e => (content, .error e)
    | .ok (data, v) => (.bytes access data, .ok v)
  | .set access items =>
    let (items, answer) := s.changedSet items c args
    (.set access items, answer)
  | .map access entries =>
    let (entries, answer) := s.changedMap entries c args
    (.map access entries, answer)
  | content => (content, .error (.ofChange (.unsupported content.typeName c)))

/-- Changes the container that a value refers to, and answers. -/
def changeContainer (self content : Value) (c : Change) (args : List Value) : Action Value := do
  let (content, answer) := (← get).changed content c args
  update self (.container content)
  orFail id answer

end Egress.Session
