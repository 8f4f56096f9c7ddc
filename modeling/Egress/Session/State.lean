import Egress.Destination.Builder
import Egress.Http.Exchange

/-! # Sessions

A session holds objects that are known by their place: containers that may still change, builders,
destinations, clients and so on, and names that are bound to values.

* `Object`           the objects
* `State.resolve`    a value with every mutable container shown as it is at present
* `State.place`      the opposite: every mutable container in a value becomes an object
* `Failure`          everything that a step can fail by -/

namespace Egress.Session

/-- A provider of headers that notes its calls. -/
structure Provider where
  headers : List (Value × Value) := []
  -- The name of a header with the path of the request.
  path : Option String := none
  -- The name of a header with the number of calls.
  count : Option String := none
  -- The error that it raises instead of an answer.
  failure : Option String := none
  -- The calls so far: the URL of the request, and how many headers the destination has.
  calls : List (String × Nat) := []

/-- What derives proxy configurations and notes what it is asked about. -/
structure Factory where
  -- The address of the proxy that it always answers, instead of deriving one.
  fixed : Option Url
  -- The stores that it was asked about so far, none for something that is no store.
  asked : List (Option Properties) := []

/-- How often a factory was asked. -/
def Factory.calls (f : Factory) : Nat := f.asked.length

/-- An object of a session. -/
inductive Object where
  -- A container that can change; its elements are values of the session.
  | container (content : Value)
  | key (k : PropertyKey)
  | conversion (f : Conversion)
  | settings (s : Settings)
  -- A frozen store.
  | properties (p : Properties)
  -- A store under construction.
  | draft (d : Draft)
  | builder (b : Builder)
  | destination (d : Destination) (properties proxy : Value)
  | credentials (c : BasicCredentials)
  | proxy (c : ProxyConfiguration) (credentials : Value)
  | transport (t : ProxyTransport)
  | provider (p : Provider)
  | factory (f : Factory)
  | client (c : Client) (responses : List Response) (closed : Bool)

/-- The word for the type of an object. -/
def Object.typeName : Object → String
  | .container v => v.typeName
  | .key _ => "PropertyKey"
  | .conversion _ => "type"
  | .settings _ => "Settings"
  | .properties _ => "DestinationProperties"
  | .draft _ => "DestinationPropertiesBuilder"
  | .builder _ => "Builder"
  | .destination .. => "TransparentProxyDestination"
  | .credentials _ => "BasicCredentials"
  | .proxy .. => "ProxyConfiguration"
  | .transport _ => "Proxy"
  | .provider _ => "Provider"
  | .factory _ => "Factory"
  | .client .. => "HttpClient"

/-- A session. -/
structure State where
  -- The objects, each at its place.
  objects : List Object := []
  -- The names, the latest binding first.
  names : List (String × Value) := []
  -- How many values that are no number were made.
  nans : Nat := 0
  -- What the present step has written.
  records : List Record := []

/-- What a step can fail by. -/
inductive Failure where
  | unbound (name : String)
  | destination (e : DestinationError)
  -- A host that cannot be read.
  | hostName (e : Host.NameError)
  | url (e : UrlError)
  -- A port with too many digits to be shown.
  | portDigits
  -- A value that cannot be hashed.
  | unhashable (e : Unhashable)
  | conversion (e : ConversionFault)
  -- A call that a builder refuses.
  | builder (e : BuilderError)
  -- A proxy that cannot be used.
  | transport (e : TransportError)
  -- A header that cannot be written.
  | line (e : Http.LineError)
  | request (e : RequestError)
  -- An assignment to a field of an immutable object.
  | frozenField (field : String)
  -- An assignment to a field of a store.
  | frozenStore
  -- An assignment to an element of something of a type that allows none.
  | frozenItems (typeName : String)
  -- An assignment to a place that a list does not have.
  | outOfRange
  -- A place of a list that is no integer, by the word for its type.
  | badIndex (typeName : String)
  -- Something of a type has no such part.
  | noPart (typeName part : String)

/-- The wording of a failure. -/
def Failure.message : Failure → String
  | .unbound name => name
  | .destination e => e.message
  | .hostName e => e.message
  | .url e => e.message
  | .portDigits => DerivationError.portDigits.message
  | .unhashable e => e.message
  | .conversion e => e.message
  | .builder e => e.message
  | .transport e => e.message
  | .line e => e.message
  | .request e => e.message
  | .frozenField field => "cannot assign to field " ++ Text.quoted field
  | .frozenStore => "DestinationProperties is immutable"
  | .frozenItems t => "'" ++ t ++ "' object does not support item assignment"
  | .outOfRange => "list assignment index out of range"
  | .badIndex t => "list indices must be integers or slices, not " ++ t
  | .noPart t part => "'" ++ t ++ "' object has no attribute '" ++ part ++ "'"

def Failure.ofDerivation : DerivationError → Failure
  | .proxy e => .destination (.proxy e)
  | .hostName e => .hostName e
  | .url e => .url e
  | .portDigits => .portDigits

/-- The failure to make a client. -/
def Failure.ofClient : ClientError → Failure
  | .destination e => .destination e
  | .unhashable e => .unhashable e
  | .transport e => .transport e
  | .line e => .line e
  | .url e => .url e

/-- A computation in a session, which may fail; what it has done stays done. -/
abbrev Action := ExceptT Failure (StateM State)

/-! ## Containers -/

mutual

/-- A value with its references replaced where `look` shows something. -/
def substitute (look : Nat → Option Value) : Value → Value
  | .ref id => (look id).getD (.ref id)
  | .seq access items => .seq access (substituteAll look items)
  | .set access items => .set access (substituteAll look items)
  | .map access entries => .map access (substituteEntries look entries)
  | .header name value => .header (substitute look name) (substitute look value)
  | v => v

/-- Values with their references replaced. -/
def substituteAll (look : Nat → Option Value) : List Value → List Value
  | [] => []
  | v :: rest => substitute look v :: substituteAll look rest

/-- Entries with their references replaced. -/
def substituteEntries (look : Nat → Option Value) : List (Value × Value) → List (Value × Value)
  | [] => []
  | (k, v) :: rest => (substitute look k, substitute look v) :: substituteEntries look rest

end

namespace State

def content? (s : State) (id : Nat) : Option Value :=
  match s.objects[id]? with
  | some (.container v) => some v
  | _ => none

/-- A value with the mutable containers of the first levels shown as they are at present. -/
def resolveWithin (s : State) : Nat → Value → Value
  | 0, v => v
  | depth + 1, v => substitute (fun id => (s.content? id).map (s.resolveWithin depth)) v

/-- A value with every mutable container shown as it is at present. A container that is no part of
itself is nested no deeper than there are objects. -/
def resolve (s : State) (v : Value) : Value := s.resolveWithin s.objects.length v

/-- The object that a value refers to. -/
def object? (s : State) : Value → Option Object
  | .ref id => s.objects[id]?
  | _ => none

/-- The word for the type of a value. -/
def typeName (s : State) (v : Value) : String :=
  match s.object? v with
  | some o => o.typeName
  | none => v.typeName

/-- The session with one more object, and the reference to it. -/
def add (s : State) (o : Object) : Value × State :=
  (.ref s.objects.length, { s with objects := s.objects ++ [o] })

/-- The session with an object put into a place. -/
def update (s : State) (id : Nat) (o : Object) : State :=
  { s with objects := s.objects.set id o }

end State

def add (o : Object) : Action Value := modifyGet (·.add o)

/-- Puts an object into the place that a value refers to. -/
def update (v : Value) (o : Object) : Action Unit :=
  match v with
  | .ref id => modify (·.update id o)
  | _ => pure ()

/-- A value with every mutable container shown as it is at present. -/
def resolve (v : Value) : Action Value := do return (← get).resolve v

def write (records : List Record) : Action Unit :=
  modify fun s => { s with records := s.records ++ records }

/-- Goes on with a value or fails. -/
def orFail (f : ε → Failure) (x : Except ε α) : Action α :=
  match x with
  | .ok a => pure a
  | .error e => throw (f e)

mutual

/-- Makes an object of every mutable container in a value. -/
def place : Value → Action Value
  | .seq access items => do
    let items ← placeAll items
    if access = .mutable then add (.container (.seq access items)) else return .seq access items
  | .set access items => do
    let items ← placeAll items
    if access = .mutable then add (.container (.set access items)) else return .set access items
  | .map access entries => do
    let entries ← placeEntries entries
    if access = .mutable then add (.container (.map access entries))
    else return .map access entries
  | .bytes .mutable data => add (.container (.bytes .mutable data))
  | v => return v

/-- Makes an object of every mutable container in values. -/
def placeAll : List Value → Action (List Value)
  | [] => return []
  | v :: rest => do
    let v ← place v
    let rest ← placeAll rest
    return v :: rest

/-- Makes an object of every mutable container among the values of entries. -/
def placeEntries : List (Value × Value) → Action (List (Value × Value))
  | [] => return []
  | (k, v) :: rest => do
    let v ← place v
    let rest ← placeEntries rest
    return (k, v) :: rest

end

end Egress.Session
