import Egress.Url.Parse

/-! # Proxy configurations

A forward proxy, with the credentials that it asks for.

* `ProxyConfiguration.literal`     how a configuration is shown, without any password
* `ProxyConfiguration.transport`   the proxy as a transport uses it: user information in the
  address takes precedence over the credentials and is taken out of it -/

namespace Egress

/-- A user name and a password. -/
structure BasicCredentials where
  username : String
  password : String := ""
  deriving DecidableEq, Repr

/-- The credentials as they are shown: the password is left out. -/
def BasicCredentials.literal (c : BasicCredentials) : String :=
  "BasicCredentials(username=" ++ Text.quoted c.username ++ ")"

/-- The forward proxy that requests to a destination go through. -/
structure ProxyConfiguration where
  uri : Url
  credentials : Option BasicCredentials := none
  deriving DecidableEq, Repr

/-- A proxy as a transport uses it. -/
structure ProxyTransport where
  -- The address, without user information.
  url : Url
  -- User name and password.
  auth : Option (String × String)
  deriving DecidableEq, Repr

/-- Why a proxy cannot be used by a transport. -/
inductive TransportError where
  | unknownScheme (url : Url)
  -- The address cannot be written without its user information.
  | url (e : UrlError)
  deriving DecidableEq, Repr

/-- The wording of an error. -/
def TransportError.message : TransportError → String
  | .unknownScheme u => "Unknown scheme for proxy URL " ++ u.display
  | .url e => e.message

/-- A URL without user name and password. -/
def Url.withoutUserinfo (u : Url) : Except UrlError Url := u.update { userinfo := some "" }

namespace ProxyConfiguration

/-- The configuration as it is shown: no password is. -/
def literal (c : ProxyConfiguration) : String :=
  "ProxyConfiguration(uri=" ++ c.uri.display ++ ", credentials=" ++
    c.credentials.elim "None" BasicCredentials.literal ++ ")"

/-- The schemes of proxies that a transport can use. -/
def transportSchemes : List String := ["http", "https", "socks5", "socks5h"]

/-- The proxy as a transport uses it. -/
def transport (c : ProxyConfiguration) : Except TransportError ProxyTransport :=
  if c.uri.scheme ∉ transportSchemes then .error (.unknownScheme c.uri)
  else if c.uri.username ≠ "" ∨ c.uri.password ≠ "" then
    match c.uri.withoutUserinfo with
    | .ok u => .ok ⟨u, some (c.uri.username, c.uri.password)⟩
    | .error e => .error (.url e)
  else .ok ⟨c.uri, c.credentials.map fun k => (k.username, k.password)⟩

end ProxyConfiguration

end Egress
