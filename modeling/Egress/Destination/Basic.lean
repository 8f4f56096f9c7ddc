import Egress.Proxy.Derivation
import Egress.Tls

/-! # Destinations

A destination is where requests go: properties, headers sent with every request, providers asked
for more headers on each request, and the proxy configuration, which is derived once when the
destination is made.

* `Properties.uri`           the address, read from the property `URL`
* `Destination.eqv`          equality, of properties and headers only; `differ` is its negation
* `Destination.Unsupported`  what a destination never provides -/

namespace Egress

/-- The address of a destination whose address is not set. -/
def defaultAddress : String := "http://dynamic:80"

/-- The address of a named instance. -/
def instanceAddress (name : String) : String := "http://dynamic-" ++ name ++ ":80"

/-- Why the property `URL` is no address. -/
inductive AddressFault where
  -- It is not read as a text.
  | unreadable (e : PropertyError)
  -- It holds a character that no URL may hold, or a percent sign without two digits.
  | illegalCharacter (raw : String)
  | invalid (raw : String) (e : UrlError)
  -- Its host holds a percent sign.
  | illegalHost (raw : String)
  deriving DecidableEq, Repr

/-- The wording of a fault. -/
def AddressFault.message : AddressFault → String
  | .unreadable e => e.message
  | .illegalCharacter raw => "Invalid destination URI " ++ Text.quoted raw ++ ": illegal character"
  | .invalid raw e => "Invalid destination URI " ++ Text.quoted raw ++ ": " ++ e.message
  | .illegalHost raw => "Invalid destination URI " ++ Text.quoted raw ++ ": illegal host"

/-- What a destination never provides. -/
inductive Unsupported where
  | keyStore
  | keyStorePassword
  | trustStore
  | trustStorePassword
  -- Credentials for the destination itself.
  | basicCredentials
  -- Properties by arbitrary names.
  | property (name : Value)

/-- The words for it. -/
def Unsupported.attribute : Unsupported → String
  | .keyStore => "key stores"
  | .keyStorePassword => "key store passwords"
  | .trustStore => "trust stores"
  | .trustStorePassword => "trust store passwords"
  | .basicCredentials => "basic credentials"
  | .property name => "lookup of arbitrary properties (" ++ name.literal ++ ")"

/-- The kind of destination of this library. -/
def destinationKind : String := "TransparentProxyDestination"

/-- The errors of destinations. -/
inductive DestinationError where
  | malformedUri (fault : AddressFault)
  -- A property that is needed is absent.
  | missing (key : PropertyKey)
  -- A property cannot be read at the type of its key.
  | property (e : PropertyError)
  -- Something that a destination never provides.
  | unsupported (what : Unsupported)
  -- No proxy configuration can be derived.
  | proxy (e : ProxyError)
  | tlsVersion (version : Value)

/-- The wording of an error. -/
def DestinationError.message : DestinationError → String
  | .malformedUri fault => fault.message
  | .missing key => "Property " ++ Text.quoted key.name ++ " is not set"
  | .property e => e.message
  | .unsupported what => destinationKind ++ " does not support " ++ what.attribute
  | .proxy e => e.message
  | .tlsVersion v => (TlsError.unsupported v).message

/-! ## Addresses -/

/-- Whether a character may stand in a URL by itself. -/
def isUriCharacter (c : Char) : Bool :=
  Url.isUnreserved c || ":/?#[]@!$&'()*+,;=".toList.contains c

/-- Whether a text consists of characters that may stand in a URL, with two hexadecimal digits
after every percent sign. -/
def isUriText : List Char → Bool
  | [] => true
  | '%' :: a :: b :: rest =>
    (Text.hexValue? a).isSome && (Text.hexValue? b).isSome && isUriText rest
  | c :: rest => isUriCharacter c && isUriText rest

/-- The URL that a text is, as an address. -/
def readUri (raw : String) : Except AddressFault Url :=
  if raw = "" ∨ !isUriText raw.toList then .error (.illegalCharacter raw)
  else match Url.parse raw with
    | .error e => .error (.invalid raw e)
    | .ok u => if u.host.toList.contains '%' then .error (.illegalHost raw) else .ok u

/-- The address that the property `URL` holds. -/
def Properties.uri (p : Properties) : Except DestinationError Url :=
  match p.readText? .url with
  | .error e => .error (.malformedUri (.unreadable e))
  | .ok none => .error (.missing .url)
  | .ok (some raw) => match readUri raw with
    | .ok u => .ok u
    | .error fault => .error (.malformedUri fault)

/-! ## Destinations -/

/-- A destination. -/
structure Destination where
  properties : Properties
  -- The headers sent with every request.
  headers : List Value
  -- The providers asked on each request, in the order of their registration.
  providers : List Value
  -- The proxy that requests go through.
  proxy : Option ProxyConfiguration
  deriving Inhabited

namespace Destination

/-- The address that requests go to. -/
def uri (d : Destination) : Except DestinationError Url := d.properties.uri

/-- The configured TLS version. -/
def tlsVersion (d : Destination) : Except PropertyError (Option String) :=
  d.properties.readText? .tlsVersion

/-- Destinations are equal when their properties and their headers are. -/
def eqv (d e : Destination) : Except UrlError Bool :=
  Value.andThen (d.properties.eqv e.properties)
    ((Value.seq .frozen d.headers).eqv (.seq .frozen e.headers))

/-- Whether two destinations differ: they do when they are not equal. -/
def differ (d e : Destination) : Except UrlError Bool := (d.eqv e).map (!·)

/-- Equal destinations share their digest. -/
def digest (d : Destination) : Except Unhashable String := do
  let p ← d.properties.digest
  let h ← (Value.seq .frozen d.headers).digest
  return "(" ++ p ++ "," ++ h ++ ")"

/-- The destination as it would be written down. -/
def literal (d : Destination) : String :=
  destinationKind ++ "(properties=" ++ d.properties.literal ++ ", custom_headers=" ++
    (Value.seq .frozen d.headers).literal ++ ")"

end Destination

end Egress
