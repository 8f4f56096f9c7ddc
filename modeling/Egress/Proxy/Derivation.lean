import Egress.Log
import Egress.Property.Store
import Egress.Proxy.Configuration

/-! # Deriving the proxy of a destination

The proxy configuration of a destination follows from its properties. A proxy over the open network
is given by `ProxyUri`, or by `ProxyHost` and `ProxyPort`; without either there is none. User name
and password come from `ProxyUser` and `ProxyPassword`, or else from the address.

* `ProxyConfiguration.derive`          the configuration, or why there is none
* `ProxyConfiguration.deriveLogged`    the same, with the record that is written about it -/

namespace Egress

/-- Why no proxy configuration can be derived. -/
inductive ProxyError where
  -- A connector would be needed.
  | onPremise
  | unknownType (type : String)
  -- A property cannot be read.
  | unreadable (e : PropertyError)
  | portOutOfRange (port : Int)
  | invalidUri (raw : String) (e : UrlError)
  -- The address has another scheme than http or https, or no host.
  | notAbsolute (raw : String)
  deriving DecidableEq, Repr

/-- The wording of an error. -/
def ProxyError.message : ProxyError → String
  | .onPremise => "On-premise proxies are not available for this destination"
  | .unknownType t => "Unknown proxy type " ++ Text.quoted t
  | .unreadable e => e.message
  | .portOutOfRange p => "Proxy port out of range: " ++ toString p
  | .invalidUri raw e => "Invalid proxy URI " ++ Text.quoted raw ++ ": " ++ e.message
  | .notAbsolute raw => "Proxy URI must be an absolute http(s) URI: " ++ Text.quoted raw

/-- What can end a derivation without a result. -/
inductive DerivationError where
  -- No configuration can be derived.
  | proxy (e : ProxyError)
  -- The host of the address is an internationalized name that cannot be read.
  | hostName (e : Host.NameError)
  -- The address cannot be written without its user information.
  | url (e : UrlError)
  -- The port has too many digits to be shown.
  | portDigits
  deriving DecidableEq, Repr

/-- The wording of an error. -/
def DerivationError.message : DerivationError → String
  | .proxy e => e.message
  | .hostName e => e.message
  | .url e => e.message
  | .portDigits => "Exceeds the limit (4300 digits) for integer string conversion; " ++
      "use sys.set_int_max_str_digits() to increase the limit"

namespace ProxyConfiguration

/-- The port of a proxy whose port is not given. -/
def defaultPort : Int := 80

def readText (p : Properties) (key : PropertyKey) : Except DerivationError (Option String) :=
  match p.readText? key with
  | .ok v => .ok v
  | .error e => .error (.proxy (.unreadable e))

def readInteger (p : Properties) (key : PropertyKey) : Except DerivationError (Option Int) :=
  match p.readInteger? key with
  | .ok v => .ok v
  | .error e => .error (.proxy (.unreadable e))

/-- Checks the proxy type. -/
def checkType (type : Option String) : Except DerivationError Unit :=
  match type with
  | none => .ok ()
  | some t =>
    if t = ProxyType.internet.text then .ok ()
    else if t = ProxyType.onPremise.text then .error (.proxy .onPremise)
    else .error (.proxy (.unknownType t))

/-- The address of a proxy, which must be absolute with the scheme http or https. -/
def readAddress (raw : String) : Except DerivationError Url :=
  match Url.parse raw with
  | .error e => .error (.proxy (.invalidUri raw e))
  | .ok u =>
    if u.scheme ≠ "http" ∧ u.scheme ≠ "https" then .error (.proxy (.notAbsolute raw))
    else match u.hostCodes with
      | .error e => .error (.hostName e)
      | .ok host => if host = [] then .error (.proxy (.notAbsolute raw)) else .ok u

/-- Checks that a port is in range. -/
def checkPort (port : Int) : Except DerivationError Unit :=
  if 0 < port ∧ port < 65536 then .ok ()
  else if port.natAbs < Number.digitBound then .error (.proxy (.portOutOfRange port))
  else .error .portDigits

/-- The address of a proxy given by `ProxyUri`, or else by `ProxyHost` and `ProxyPort`; empty texts
count as absent. -/
def address (p : Properties) : Except DerivationError (Option Url) := do
  let raw ← readText p .proxyUri
  let host ← readText p .proxyHost
  if raw.getD "" ≠ "" then
    return some (← readAddress (raw.getD ""))
  else if host.getD "" ≠ "" then
    let port := (← readInteger p .proxyPort).getD defaultPort
    checkPort port
    return some (← readAddress ("http://" ++ host.getD "" ++ ":" ++ toString port))
  else
    return none

/-- The credentials for a proxy: both parts from the properties if a user name is given there,
otherwise both from the address. -/
def credentialsFor (p : Properties) (uri : Url) :
    Except DerivationError (Option BasicCredentials) := do
  let user := (← readText p .proxyUser).getD ""
  if user ≠ "" then
    return some ⟨user, (← readText p .proxyPassword).getD ""⟩
  else if uri.username ≠ "" then
    return some ⟨uri.username, uri.password⟩
  else
    return none

/-- An address without user information. -/
def stripped (uri : Url) : Except DerivationError Url :=
  if uri.userinfo = "" then .ok uri
  else match uri.withoutUserinfo with
    | .ok u => .ok u
    | .error e => .error (.url e)

def derive (p : Properties) : Except DerivationError (Option ProxyConfiguration) := do
  checkType (← readText p .proxyType)
  match ← address p with
  | none => return none
  | some uri =>
    let credentials ← credentialsFor p uri
    let uri ← stripped uri
    return some ⟨uri, credentials⟩

/-- What is written about the outcome of a derivation. -/
def recordsOf : Except DerivationError (Option ProxyConfiguration) → List Record
  | .ok (some c) => [⟨.debug, .proxy, "Derived proxy configuration " ++ c.uri.text⟩]
  | .error (.proxy e) => [⟨.warning, .proxy, "Cannot derive proxy configuration: " ++ e.message⟩]
  | _ => []

/-- The proxy configuration that follows from properties, with what is written about it. -/
def deriveLogged (p : Properties) : Logged DerivationError (Option ProxyConfiguration) :=
  ⟨recordsOf (derive p), derive p⟩

end ProxyConfiguration

end Egress
