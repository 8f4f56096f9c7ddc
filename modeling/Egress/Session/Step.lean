import Egress.Session.Change
import Egress.Session.Expr

/-! # The steps of a session

A step makes an object, calls a method of one, looks at it or changes it. Its report holds the
answer, what was written, and the session after it.

* `Step`          the steps
* `Answer`        the answers
* `Session.run`   the reports of steps taken one after the other -/

namespace Egress.Session

/-- What can be made. -/
inductive Kind where
  | builder
  | destination
  -- A frozen store.
  | properties
  -- A store under construction.
  | draft
  | header
  | credentials
  | proxy
  | factory
  | value
  -- A client that will get the given responses and keeps cookies.
  | client (responses : List Response) (cookies : CookieRule := .none)

/-- What can be called. -/
inductive Method where
  | property
  | removeProperty
  -- Reads a property.
  | get
  -- Whether a property is assigned.
  | contains
  | propertyNames
  | asDict
  | header
  | headers
  -- Adds the headers of something that ends with an error behind its last element.
  | headersUntil (message : String)
  | fixed (h : FixedHeader)
  -- Sets the address to that of an instance.
  | instanceName
  | headerProviders
  | build
  | uri
  | ownHeaders
  | ownProviders
  | tlsVersion
  | proxyConfiguration
  | proxyType
  -- Whether every certificate is trusted.
  | trustsAll
  | authenticationType
  -- Something that a destination does not provide.
  | unsupported (what : Unsupported)
  | arbitraryProperty
  -- The proxy as a transport uses it.
  | transport
  -- Changes a container.
  | change (c : Change)
  -- Sends a request for a URL.
  | fetch
  -- Sends a request with a payload.
  | postJson
  | enter
  | close

namespace Method

/-- Adds an element at the end of a list or a byte array. -/
def append : Method := .change .append

/-- Puts elements or entries into a set or a dictionary. -/
def update : Method := .change .update

end Method

/-- A step. -/
inductive Step where
  -- Makes something.
  | create (kind : Kind) (args : List Expr)
  | call (method : Method) (on : Expr) (args : List Expr)
  -- Shows something.
  | view (e : Expr)
  | part (e : Expr) (name : String)
  -- Shows something as it would be written down.
  | literal (e : Expr)
  -- Counts the elements.
  | length (e : Expr)
  | elements (e : Expr)
  -- Whether two things are equal.
  | equal (a b : Expr)
  -- Whether two things are one.
  | same (a b : Expr)
  -- Whether two things have the same digest.
  | sameHash (a b : Expr)
  | setPart (e : Expr) (name : String) (value : Expr)
  -- Assigns an element.
  | setItem (e key value : Expr)
  | deleteItem (e key : Expr)

/-- The answer to a step. -/
inductive Answer where
  | value (v : Value)
  -- The object whose method was called.
  | self (v : Value)
  -- Whether two things are equal.
  | comparison (equal : Bool)
  -- Something was assigned.
  | assigned
  -- A client was entered.
  | entered
  -- A client was closed.
  | closed
  | response (r : Result) (sent : List Request)
  | failed (e : Failure)
  | requestFailed (e : RequestError) (sent : List Request)

/-! ## Properties -/

def State.nameOf (s : State) (v : Value) : PropertyName :=
  match s.object? v with
  | some (.key k) => .typed k
  | _ => .plain (s.resolve v)

/-- The conversion that a value stands for. -/
def State.conversionOf (s : State) (v : Value) : Option Conversion :=
  match s.object? v with
  | some (.conversion f) => some f
  | _ => none

/-- What names a property. -/
def propertyName (v : Value) : Action PropertyName := do return (← get).nameOf v

/-- Fails if a name cannot be looked up. -/
def checkName (name : PropertyName) : Action Unit :=
  discard (orFail .unhashable name.value.digest)

/-- Reads an entry: at the type of a typed key, through a conversion, or as it is. -/
def readEntry (entries : List (Value × Value)) (key conversion : Value) : Action Value := do
  let name ← propertyName key
  checkName name
  match Value.entry? entries name.value with
  | none => return .null
  | some raw =>
    let s ← get
    match name, s.conversionOf conversion with
    | .typed ⟨_, .any⟩, _ => return raw
    | .typed k, _ => place (← orFail (.destination ∘ .property) (k.read (s.resolve raw)))
    | .plain _, some f => place (← orFail .conversion (f.apply (s.resolve raw)))
    | .plain _, none => return raw

/-- Whether a name is assigned. -/
def hasEntry (entries : List (Value × Value)) (key : Value) : Action Value := do
  let name ← propertyName key
  checkName name
  return .bool (Value.entry? entries name.value).isSome

/-- The elements of a value or of a store. -/
def elementsOf (v : Value) : Action (Option (List Value)) := do return (← get).elements? v

/-- What going through a value or a store gives, where an error may come behind its last element. -/
def State.iteration (s : State) (v : Value) (failure : Option String) : Iteration :=
  match s.elements? v with
  | none => .refused (s.typeName v)
  | some items => failure.elim (.complete items) (.broken items)

/-- The elements of something that must have some. -/
def requireElements (v : Value) : Action (List Value) := do
  match ← elementsOf v with
  | some items => return items
  | none => throw (.conversion (.notIterable ((← get).typeName v)))

/-! ## Destinations -/

/-- How a factory, or the rule of the library without one, derives a proxy configuration. -/
def Factory.derive (f : Option Factory) (p : Properties) :
    Logged Failure (Option ProxyConfiguration) :=
  match f.bind (·.fixed) with
  | some u => .quiet (.ok (some ⟨u, none⟩))
  | none => (ProxyConfiguration.deriveLogged p).mapError .ofDerivation

/-- The factory that a value refers to. -/
def factory? (s : State) (v : Value) : Option Factory :=
  match s.object? v with
  | some (.factory f) => some f
  | _ => none

/-- The store that a value refers to. -/
def State.store? (s : State) (v : Value) : Option Properties :=
  match s.object? v with
  | some (.properties p) => some p
  | _ => none

/-- Notes that a factory is asked about a store, or about something that is none, and gives the way
in which it derives. -/
def askFactory (v : Value) (store : Option Properties) :
    Action (Properties → Logged Failure (Option ProxyConfiguration)) := do
  let f := factory? (← get) v
  match f with
  | some f => update v (.factory { f with asked := f.asked ++ [store] })
  | none => pure ()
  return Factory.derive f

/-- Writes what a computation has written and goes on with its value. -/
def perform (x : Logged Failure α) : Action α := do
  write x.records
  orFail id x.result

/-- Makes the object of credentials, if there are any. -/
def addCredentials : Option BasicCredentials → Action Value
  | none => return .null
  | some k => add (.credentials k)

/-- Makes the objects of a proxy configuration, if there is one. -/
def addProxy : Option ProxyConfiguration → Action Value
  | none => return .null
  | some c => do add (.proxy c (← addCredentials c.credentials))

/-- Makes the objects of a destination. -/
def addDestination (d : Destination) (properties : Option Value) : Action Value := do
  let properties ← match properties with
    | some v => pure v
    | none => add (.properties d.properties)
  let proxy ← addProxy d.proxy
  add (.destination d properties proxy)

/-- The headers that a destination is given, none for what does not count as true. -/
def headersGiven (v : Value) : Action (List Value) :=
  if v.isTruthy then requireElements v else return []

/-- The providers that a destination is given, if any are. -/
def providersGiven : Option Value → Action (List Value)
  | none => return []
  | some v => requireElements v

/-- Makes a destination from a store, with headers, providers and what derives its proxy. The
factory is asked before it turns out that something is no store. -/
def makeDestination (store : Value) (headers providers : List Value) (factory : Value) :
    Action Value := do
  let s ← get
  let derive ← askFactory factory (s.store? store)
  match s.store? store with
  | some p =>
    let proxy ← perform (derive p)
    addDestination ⟨p, headers, providers, proxy⟩ (some store)
  | none => throw (.noPart (s.typeName store) "get")

/-- Whether something gives headers. -/
def givesHeaders (s : State) (v : Value) : Bool :=
  match s.object? v with
  | some (.provider _) | some (.destination ..) => true
  | _ => false

/-- Builds a destination with a builder, which keeps the default address. -/
def buildDestination (self : Value) (b : Builder) : Action Value := do
  let b := b.withAddress
  update self (.builder b)
  let s ← get
  let derive ← askFactory (b.factory.elim .null .ref) (some (b.draft.build s.resolve))
  let d ← perform (b.build s.resolve derive)
  addDestination d none

/-! ## Requests -/

/-- The headers that a provider answers after this call. -/
def Provider.answer (p : Provider) (url : Url) : List Value :=
  p.headers.map (fun h => .header h.1 h.2) ++
    (p.path.toList.map fun n => .header (.text n) (.text url.decodedPath)) ++
    (p.count.toList.map fun n => .header (.text n) (.text (toString p.calls.length)))

/-- What a provider answers about a request of a destination with so many headers. -/
def ask (headers : Nat) : Ask State := fun s v url =>
  match v, s.object? v with
  | .ref id, some (.provider p) =>
    let p := { p with calls := p.calls ++ [(url.text, headers)] }
    let s := s.update id (.provider p)
    match p.failure with
    | some message => (s, .error (.provider message))
    | none => (s, .ok (p.answer url))
  | _, some (.destination d _ _) => (s, .ok (d.headers.map s.resolve))
  | v, _ => (s, .error (.line (.notHeader (s.typeName v) "get_headers")))

def sendRequest (self : Value) (c : Client) (responses : List Response) (closed : Bool)
    (method : String) (url payload : Value) : Action Answer := do
  match c.request method (← resolve url) (← resolve payload) with
  | .error e => return .requestFailed e []
  | .ok request =>
    if closed then return .requestFailed .closed []
    else
      let (x, result) := Exchange.send (ask c.destination.headers.length) c.cookies
        c.destination.providers c.followRedirects.isTruthy request
        ⟨← get, responses, c.seen, [], []⟩
      set x.providers
      update self (.client { c with seen := x.seen } x.responses closed)
      write x.records
      match result with
      | .error e => return .requestFailed e x.sent
      | .ok r => return .response r x.sent

/-! ## Making things -/

/-- Makes something from its arguments. -/
def create (kind : Kind) (args : List Value) : Action Value := do
  let arg (i : Nat) : Value := args.getD i .null
  let s ← get
  match kind with
  | .builder => add (.builder { factory := match arg 0 with
      | .ref id => some id
      | _ => none })
  | .properties => add (.properties (.ofEntries (s.resolve (arg 0)).entries))
  | .draft => add (.draft {})
  | .header => return .header (arg 0) (arg 1)
  | .credentials =>
    add (.credentials ⟨(arg 0).text?.getD "", (arg 1).text?.getD ""⟩)
  | .proxy =>
    let uri ← match arg 0 with
      | .url u => pure u
      | v => orFail .url (Url.parse (v.text?.getD ""))
    let credentials := match s.object? (arg 1) with
      | some (.credentials c) => some c
      | _ => none
    add (.proxy ⟨uri, credentials⟩ (arg 1))
  | .factory => match (arg 0).text? with
    | some t => do add (.factory { fixed := some (← orFail .url (Url.parse t)) })
    | none => add (.factory { fixed := none })
  | .value => return arg 0
  | .destination => do
    let headers ← headersGiven (arg 1)
    let providers ← providersGiven args[2]?
    makeDestination (arg 0) headers providers (arg 3)
  | .client responses cookies => match s.object? (arg 0) with
    | some (.destination d _ _) =>
      let settings := match s.object? (arg 1) with
        | some (.settings t) => t
        | _ => {}
      let d := { d with headers := d.headers.map s.resolve }
      let c ← orFail .ofClient (Client.ofDestination d settings cookies)
      add (.client c responses false)
    | _ => throw (.noPart (s.typeName (arg 0)) "get_headers")

/-! ## Calls -/

/-- Puts what a call makes of a builder into its place, unless the call is refused. -/
def keepBuilder (self : Value) (x : Except BuilderError Builder) : Action Answer := do
  update self (.builder (← orFail .builder x))
  return .self self

/-- Adds the headers that something gives to a builder. Those before an error stay, although the
call fails. -/
def takeHeaders (self : Value) (b : Builder) (given : Iteration) : Action Answer :=
  match given with
  | .refused typeName => throw (.builder (.notIterable typeName))
  | .complete _ => keepBuilder self (.ok (b.addHeaders given))
  | .broken _ message => do
    update self (.builder (b.addHeaders given))
    throw (.builder (.broken message))

def callBuilder (self : Value) (b : Builder) (method : Method) (args : List Value) :
    Action Answer := do
  let arg (i : Nat) : Value := args.getD i .null
  let s ← get
  match method with
  | .property => do keepBuilder self (b.put (← propertyName (arg 0)) (arg 1))
  | .removeProperty => do keepBuilder self (b.erase (← propertyName (arg 0)))
  | .get => do return .value (← readEntry b.draft.entries (arg 0) (arg 1))
  | .header => do
    let name := match arg 0 with
      | .ref _ => s.resolve (arg 0)
      | v => v
    keepBuilder self (b.addHeader name (arg 1))
  | .headers => takeHeaders self b (s.iteration (arg 0) none)
  | .headersUntil message => takeHeaders self b (s.iteration (arg 0) (some message))
  | .fixed h => keepBuilder self (b.addFixed h (arg 0))
  | .instanceName => keepBuilder self (.ok (b.setInstance (s.resolve (arg 0))))
  | .headerProviders => keepBuilder self (b.addProviders (givesHeaders s) (args.map fun v =>
      if givesHeaders s v then v else s.resolve v))
  | .build => do return .value (← buildDestination self b)
  | _ => throw (.noPart "Builder" "")

/-- Calls a method of a store under construction. -/
def callDraft (self : Value) (d : Draft) (method : Method) (args : List Value) : Action Answer := do
  let arg (i : Nat) : Value := args.getD i .null
  let s ← get
  match method with
  | .property =>
    let name ← propertyName (arg 0)
    checkName name
    update self (.draft (d.put name.value (arg 1)))
    return .self self
  | .removeProperty =>
    let name ← propertyName (arg 0)
    unless d.entries.isEmpty do checkName name
    update self (.draft (d.erase name.value))
    return .self self
  | .get => return .value (← readEntry d.entries (arg 0) (arg 1))
  | .contains => return .value (← hasEntry d.entries (arg 0))
  | .propertyNames => return .value (← place (.seq .mutable (d.entries.map (·.1))))
  | .build => return .value (← add (.properties (d.build s.resolve)))
  | _ => throw (.noPart "DestinationPropertiesBuilder" "")

/-- Calls a method of a frozen store. -/
def callProperties (p : Properties) (method : Method) (args : List Value) : Action Answer := do
  let arg (i : Nat) : Value := args.getD i .null
  match method with
  | .get => return .value (← readEntry p.entries (arg 0) (arg 1))
  | .contains => return .value (← hasEntry p.entries (arg 0))
  | .propertyNames => return .value (← place (.seq .mutable p.names))
  | .asDict => return .value (← place (.map .mutable p.entries))
  | _ => throw (.noPart "DestinationProperties" "")

def callDestination (d : Destination) (proxy : Value) (method : Method) (args : List Value) :
    Action Answer := do
  let arg (i : Nat) : Value := args.getD i .null
  match method with
  | .uri => return .value (.url (← orFail .destination d.uri))
  | .ownHeaders => return .value (.seq .frozen d.headers)
  | .ownProviders => return .value (.seq .frozen d.providers)
  | .tlsVersion =>
    let version ← orFail (.destination ∘ .property) d.tlsVersion
    return .value (version.elim .null .text)
  | .proxyConfiguration => return .value proxy
  | .proxyType => return .value (.member (.proxy .internet))
  | .trustsAll => return .value (.bool false)
  | .authenticationType => return .value (.member (.authentication .noAuthentication))
  | .get => return .value (← readEntry d.properties.entries (arg 0) .null)
  | .propertyNames => return .value (← place (.seq .mutable d.properties.names))
  | .unsupported what => throw (.destination (.unsupported what))
  | .arbitraryProperty =>
    throw (.destination (.unsupported (.property (← resolve (arg 0)))))
  | _ => throw (.noPart destinationKind "")

def callClient (self : Value) (c : Client) (responses : List Response) (closed : Bool)
    (method : Method) (args : List Value) : Action Answer := do
  let arg (i : Nat) : Value := args.getD i .null
  match method with
  | .get | .fetch => sendRequest self c responses closed "GET" (arg 0) .null
  | .postJson => sendRequest self c responses closed "POST" (arg 0) (arg 1)
  | .enter => return .entered
  | .close =>
    update self (.client c responses true)
    return .closed
  | _ => throw (.noPart "HttpClient" "")

def callContainer (self content : Value) (method : Method) (args : List Value) :
    Action Answer := do
  match method with
  | .change c => return .value (← changeContainer self content c args)
  | _ => throw (.noPart content.typeName "")

/-- Calls a method of something. -/
def call (method : Method) (self : Value) (args : List Value) : Action Answer := do
  let s ← get
  match s.object? self, method with
  | some (.builder b), m => callBuilder self b m args
  | some (.draft d), m => callDraft self d m args
  | some (.properties p), m => callProperties p m args
  | some (.destination d _ proxy), m => callDestination d proxy m args
  | some (.client c responses closed), m => callClient self c responses closed m args
  | some (.container content), m => callContainer self content m args
  | some (.proxy c _), .transport => do
    return .value (← add (.transport (← orFail .transport c.transport)))
  | some (.factory _), .proxyConfiguration => do
    let store := args.getD 0 .null
    let derive ← askFactory self (s.store? store)
    match s.store? store with
    | some p =>
      let proxy ← perform (derive p)
      return .value (← addProxy proxy)
    | none => throw (.noPart (s.typeName store) "get")
  | _, _ => throw (.noPart (s.typeName self) "")

/-! ## Looking at things -/

/-- Something as it would be written down. -/
def literalOf (v : Value) : Action String := do
  let s ← get
  match s.object? v with
  | some (.properties p) => return p.literal
  | some (.destination d _ _) =>
    return Destination.literal { d with headers := d.headers.map s.resolve }
  | some (.credentials c) => return c.literal
  | some (.proxy c _) => return c.literal
  | _ => return (s.resolve v).literal

/-- Whether two things are equal. -/
def equal (a b : Value) : Action Bool := do
  let s ← get
  match s.object? a, s.object? b with
  | some (.properties p), some (.properties q) => orFail .url (p.eqv q)
  | some (.destination d _ _), some (.destination e _ _) =>
    orFail .url (Destination.eqv { d with headers := d.headers.map s.resolve }
      { e with headers := e.headers.map s.resolve })
  | some (.credentials c), some (.credentials d) => return c == d
  | some (.proxy c _), some (.proxy d _) =>
    return c.uri.text == d.uri.text && c.credentials == d.credentials
  | some (.key k), some (.key l) => return k == l
  | _, _ => orFail .url ((s.resolve a).eqv (s.resolve b))

/-- What all things equal to one have in common. -/
def digestOf (v : Value) : Action String := do
  let s ← get
  match s.object? v with
  | some (.properties p) => orFail .unhashable p.digest
  | some (.destination d _ _) =>
    orFail .unhashable (Destination.digest { d with headers := d.headers.map s.resolve })
  | some (.credentials c) =>
    orFail .unhashable (Value.header (.text c.username) (.text c.password)).digest
  | some (.proxy c _) =>
    let credentials := c.credentials.elim .null fun k =>
      .header (.text k.username) (.text k.password)
    orFail .unhashable (Value.header (.url c.uri) credentials).digest
  | _ => orFail .unhashable (s.resolve v).digest

/-- Whether two things are one. -/
def isSame (a b : Value) : Bool :=
  match a, b with
  | .ref i, .ref j => i == j
  | .ref _, _ => false
  | _, .ref _ => false
  | a, b => a.typeName == b.typeName && a.literal == b.literal

/-- The part of something by its name. -/
def partOf (v : Value) (name : String) : Action Value := do
  let s ← get
  match s.object? v, v, name with
  | some (.destination _ p _), _, "properties" => return p
  | some (.destination d _ _), _, "custom_headers" => return .seq .frozen d.headers
  | some (.destination d _ _), _, "header_providers" => return .seq .frozen d.providers
  | some (.destination _ _ c), _, "cached_proxy_configuration" => return c
  | some (.credentials c), _, "username" => return .text c.username
  | some (.credentials c), _, "password" => return .text c.password
  | some (.proxy c _), _, "uri" => return .url c.uri
  | some (.proxy _ k), _, "credentials" => return k
  | _, .header n _, "name" => return n
  | _, .header _ x, "value" => return x
  | _, .member m, "value" => return .text m.text
  | _, .member m, "name" => return .text m.name
  | _, _, _ => throw (.noPart (s.typeName v) name)

/-- Assigns a part of something. -/
def setPart (v : Value) (name : String) : Action Unit := do
  let s ← get
  match s.object? v, v with
  | some (.properties _), _ => throw .frozenStore
  | some (.destination ..), _ | some (.credentials _), _ | some (.proxy ..), _
  | some (.key _), _ | some (.settings _), _ | _, .header .. => throw (.frozenField name)
  | some (.container _), _ | none, _ => throw (.noPart (s.typeName v) name)
  | _, _ => return ()

/-- Assigns an element of something. -/
def setItem (v key value : Value) : Action Unit := do
  let s ← get
  match s.object? v with
  | some (.container content) => discard (changeContainer v content .setItem [key, value])
  | _ => throw (.frozenItems (s.typeName v))

/-- Whether a value is of a type without any positions: null, or a number. -/
def hasNoPositions : Value → Bool
  | .null | .bool _ | .int _ | .float _ => true
  | _ => false

/-- Deletes an element of something. -/
def deleteItem (v key : Value) : Action Unit := do
  let s ← get
  match s.object? v with
  | some (.container content) => discard (changeContainer v content .deleteItem [key])
  | _ =>
    let byPosition := key.integer?.isSome && !hasNoPositions v
    throw (.ofChange (.deletion (s.typeName v) byPosition))

/-! ## Steps -/

/-- The length of something. -/
def lengthOf (v : Value) : Action Value := do
  match ← elementsOf v with
  | some items => return .int items.length
  | none => throw (.conversion (.lengthType ((← get).typeName v)))

/-- Takes a step. -/
def Step.perform : Step → Action Answer
  | .create kind args => do return .value (← Session.create kind (← Expr.evalAll args))
  | .call method on args => do
    let self ← on.eval
    Session.call method self (← Expr.evalAll args)
  | .view e => do return .value (← e.eval)
  | .part e name => do return .value (← partOf (← e.eval) name)
  | .literal e => do return .value (.text (← literalOf (← e.eval)))
  | .length e => do return .value (← lengthOf (← e.eval))
  | .elements e => do return .value (.seq .mutable (← requireElements (← e.eval)))
  | .equal a b => do
    let a ← a.eval
    return .comparison (← Session.equal a (← b.eval))
  | .same a b => do
    let a ← a.eval
    return .value (.bool (isSame a (← b.eval)))
  | .sameHash a b => do
    let a ← a.eval
    let b ← b.eval
    let d ← digestOf a
    return .value (.bool (d == (← digestOf b)))
  | .setPart e name value => do
    let v ← e.eval
    discard value.eval
    Session.setPart v name
    return .assigned
  | .setItem e key value => do
    let v ← e.eval
    let key ← key.eval
    Session.setItem v key (← value.eval)
    return .assigned
  | .deleteItem e key => do
    let v ← e.eval
    Session.deleteItem v (← key.eval)
    return .assigned

/-- The value that an answer can be bound to. -/
def Answer.value? : Answer → Option Value
  | .value v => some v
  | .self v => some v
  | _ => none

/-- What is known after a step. -/
structure Report where
  answer : Answer
  -- What was written.
  records : List Record
  -- The session after the step.
  state : State

/-- Takes a step and binds a name to its answer. -/
def step (s : State) (command : Step × Option String) : Report :=
  let (result, s) := (command.1.perform.run { s with records := [] }).run
  match result with
  | .error e => ⟨.failed e, s.records, s⟩
  | .ok answer =>
    let names := match command.2, answer.value? with
      | some name, some v => (name, v) :: s.names
      | _, _ => s.names
    ⟨answer, s.records, { s with names }⟩

/-- The reports of steps taken one after the other. -/
def run (s : State) : List (Step × Option String) → List Report
  | [] => []
  | command :: rest => let report := step s command; report :: run report.state rest

end Egress.Session
