import Egress.Destination.Basic

/-! # Builders

A builder collects properties, headers and providers, and builds destinations from what it holds.
Its state stays as it is over a build, except that the address is set when it was not.

* `Builder.put`, `Builder.erase`, `Builder.addHeader`, `Builder.addProviders` each give the builder
  after a call, or why the call is refused
* `Iteration`, `Builder.addHeaders` take headers one by one from what is gone through, so that those
  before an error stay
* `Builder.withAddress`   the builder with the default address if it has none
* `Builder.build`         a destination of what the builder holds
* `Builder.make`          the same with the default address and the rules of this library -/

namespace Egress

/-- Why a call on a builder is refused. -/
inductive BuilderError where
  -- A name that cannot be looked up.
  | unhashable (e : Unhashable)
  -- A header together with a value.
  | surplusValue
  | missingValue (name : Value)
  -- Something that gives no headers.
  | notProvider (v : Value)
  -- Something without elements, by the word for its type.
  | notIterable (typeName : String)
  -- Going through something ended with an error of its own.
  | broken (message : String)

/-- The wording of a refusal. -/
def BuilderError.message : BuilderError → String
  | .unhashable e => e.message
  | .surplusValue => "value must not be given together with a Header"
  | .missingValue name => "missing value for header " ++ name.literal
  | .notProvider v => v.literal ++ " has no get_headers method"
  | .notIterable t => "'" ++ t ++ "' object is not iterable"
  | .broken message => message

/-- What going through something gives. -/
inductive Iteration where
  -- It cannot be gone through, by the word for its type.
  | refused (typeName : String)
  -- All of its elements, in order.
  | complete (items : List Value)
  -- Some elements, and then an error.
  | broken (items : List Value) (message : String)

namespace Iteration

/-- The elements that are given, in order. -/
def items : Iteration → List Value
  | refused _ => []
  | complete items => items
  | broken items _ => items

/-- Why it ends before the last element, if it does. -/
def failure? : Iteration → Option BuilderError
  | refused t => some (.notIterable t)
  | complete _ => none
  | broken _ message => some (.broken message)

end Iteration

/-- The headers with fixed names. -/
inductive FixedHeader where
  | destinationName
  | fragmentName
  | tenantSubdomain
  | tenantId
  -- Whether the fragment may be missing.
  | fragmentOptional
  deriving DecidableEq, Repr

def FixedHeader.name : FixedHeader → String
  | .destinationName => "X-Destination-Name"
  | .fragmentName => "X-Fragment-Name"
  | .tenantSubdomain => "X-Tenant-Subdomain"
  | .tenantId => "X-Tenant-Id"
  | .fragmentOptional => "X-Fragment-Optional"

/-- A builder. -/
structure Builder where
  draft : Draft := {}
  headers : List Value := []
  providers : List Value := []
  -- What derives the proxy configuration, if not the rule of this library.
  factory : Option Nat := none
  deriving Inhabited

namespace Builder

/-- Assigns a value to a property. -/
def put (b : Builder) (name : PropertyName) (value : Value) : Except BuilderError Builder :=
  match name.value.digest with
  | .error e => .error (.unhashable e)
  | .ok _ => .ok { b with draft := b.draft.put name.value value }

/-- Removes a property. A builder without properties does not look at the name. -/
def erase (b : Builder) (name : PropertyName) : Except BuilderError Builder :=
  if b.draft.entries.isEmpty then .ok b
  else match name.value.digest with
    | .error e => .error (.unhashable e)
    | .ok _ => .ok { b with draft := b.draft.erase name.value }

/-- Adds a header: either a header, or a name with a value. -/
def addHeader (b : Builder) (header value : Value) : Except BuilderError Builder :=
  match header, value with
  | .header .., .null => .ok { b with headers := b.headers ++ [header] }
  | .header .., _ => .error .surplusValue
  | name, .null => .error (.missingValue name)
  | name, value => .ok { b with headers := b.headers ++ [.header name value] }

/-- Adds headers in the order in which something gives them. -/
def addHeaders (b : Builder) (given : Iteration) : Builder :=
  { b with headers := b.headers ++ given.items }

/-- Adds a header with a fixed name. -/
def addFixed (b : Builder) (h : FixedHeader) (value : Value) : Except BuilderError Builder :=
  b.addHeader (.text h.name) value

/-- Adds providers, if each of them gives headers. -/
def addProviders (b : Builder) (gives : Value → Bool) (providers : List Value) :
    Except BuilderError Builder :=
  match providers.find? (!gives ·) with
  | some v => .error (.notProvider v)
  | none => .ok { b with providers := b.providers ++ providers }

/-- Sets the address to that of a named instance. -/
def setInstance (b : Builder) (name : Value) : Builder :=
  let address := instanceAddress name.display
  { b with draft := b.draft.put (.text PropertyKey.url.name) (.text address) }

/-- The builder with the default address if it has none. -/
def withAddress (b : Builder) : Builder :=
  if b.draft.contains (.text PropertyKey.url.name) then b
  else { b with draft := b.draft.put (.text PropertyKey.url.name) (.text defaultAddress) }

/-- What is written about a destination that was built. -/
def builtRecord (d : Destination) : Record :=
  ⟨.debug, .destination, "Built destination " ++
    ((d.properties.get? (.text PropertyKey.url.name)).getD .null).display ++ " with " ++
    toString d.headers.length ++ " header(s)"⟩

/-- The destination of properties, headers and providers, and what is written about it. -/
def assemble (properties : Properties) (headers providers : List Value)
    (proxy : Logged ε (Option ProxyConfiguration)) : Logged ε Destination :=
  proxy.bind fun proxy =>
    let d : Destination := ⟨properties, headers, providers, proxy⟩
    ⟨[builtRecord d], .ok d⟩

/-- The destination of what the builder holds, where `look` shows a value as it is at present and
`derive` derives the proxy configuration. -/
def build (b : Builder) (look : Value → Value)
    (derive : Properties → Logged ε (Option ProxyConfiguration)) : Logged ε Destination :=
  let properties := b.draft.build look
  assemble properties b.headers b.providers (derive properties)

/-- The destination of what the builder holds, with its address set and its proxy configuration
derived by the rule of this library. The values in the builder are taken as they are. -/
def make (b : Builder) : Logged DerivationError Destination :=
  b.withAddress.build id ProxyConfiguration.deriveLogged

end Builder

end Egress
