import Egress.Destination.Basic
import Egress.Http.Json
import Egress.Http.Message
import Egress.Text.Base64

/-! # Clients and their requests

A client sends requests to a destination. Its address is the base of every relative request URL;
its header lines are the defaults, the extra headers of the settings and the headers of the
destination.

* `Client.ofDestination`   the client for a destination
* `Client.target`          the URL that a request goes to
* `Request.withCookies`    a request with its cookies
* `Client.request`         a request before any provider was asked -/

namespace Egress

open Egress.Http

/-- The settings of a client. -/
structure Settings where
  -- The time limit for a connection, in seconds.
  timeout : Value := .float (.finite false (Nat.pow 2 52) (-49))
  -- Whether certificates are checked.
  verifyTls : Value := .bool true
  followRedirects : Value := .bool true
  -- Headers sent with every request, before those of the destination.
  extraHeaders : Value := .null

/-- Why there is no client. -/
inductive ClientError where
  | destination (e : DestinationError)
  -- The TLS version cannot be looked up.
  | unhashable (e : Unhashable)
  -- The proxy cannot be used.
  | transport (e : TransportError)
  -- A header cannot be written.
  | line (e : LineError)
  -- The address cannot be a base.
  | url (e : UrlError)

/-- The wording of an error. -/
def ClientError.message : ClientError → String
  | .destination e => e.message
  | .unhashable e => e.message
  | .transport e => e.message
  | .line e => e.message
  | .url e => e.message

/-- A client. -/
structure Client where
  destination : Destination
  -- The address of the destination, with a slash at its end.
  base : Url
  -- The header lines of every request.
  lines : Lines
  -- The time limit for a connection.
  timeout : Value
  followRedirects : Value
  -- The cookies that are kept, and what was answered so far.
  cookies : CookieRule := .none
  seen : Answered := []

namespace Client

/-- The header lines of a request unless others of their names are given. -/
def defaultLines : Lines :=
  [.ofAscii "Accept" "*/*", .ofAscii "Accept-Encoding" "gzip, deflate",
    .ofAscii "Connection" "keep-alive", .ofAscii "User-Agent" "python-httpx/0.28.1"]

/-- The address as a base: path and query together end with a slash. -/
def baseOf (u : Url) : Except UrlError Url :=
  if u.rawPath.toList.getLast? = some '/' then .ok u
  else u.update { rawPath := some (u.rawPath ++ "/") }

/-- The names and values of the headers that are given: those of the settings, then those of the
destination. -/
def givenHeaders (d : Destination) (s : Settings) : Except LineError (List (Value × Value)) := do
  let extra := match s.extraHeaders with
    | .map _ entries => entries
    | _ => []
  let own ← d.headers.mapM (headerParts "name")
  return extra ++ own

/-- The client for a destination. -/
def ofDestination (d : Destination) (s : Settings) (cookies : CookieRule := .none) :
    Except ClientError Client := do
  let given ← (givenHeaders d s).mapError .line
  let uri ← d.uri.mapError .destination
  let version ← d.tlsVersion.mapError fun e => .destination (.property e)
  discard <| (TlsSettings.ofValue (version.elim .null .text) true).mapError fun
    | .unsupported v => .destination (.tlsVersion v)
    | .unhashable e => .unhashable e
  match d.proxy with
  | none => pure ()
  | some proxy => discard <| proxy.transport.mapError .transport
  let base ← (baseOf uri).mapError .url
  let lines ← (given.mapM fun h => Line.ofValues h.1 h.2).mapError .line
  let lines ← (mergeLines defaultLines lines).mapError .line
  return ⟨d, base, lines, s.timeout, s.followRedirects, cookies, []⟩

end Client

/-! ## Requests -/

/-- Why a request fails. -/
inductive RequestError where
  | url (e : UrlError)
  -- What is given as a URL is neither URL nor text.
  | urlType (v : Value)
  -- A host is an internationalized name that cannot be read.
  | hostName (e : Host.NameError)
  | json (e : JsonError)
  | closed
  -- A header cannot be written.
  | line (e : LineError)
  | provider (message : String)
  -- The URL of a redirect is malformed.
  | location (e : UrlError)
  | tooManyRedirects
  -- A URL without a scheme was requested.
  | noScheme (url : Url)

/-- The wording of an error. -/
def RequestError.message : RequestError → String
  | .url e => e.message
  | .urlType v => "Invalid type for url.  Expected str or httpx.URL, got <class '" ++ className v ++
      "'>: " ++ v.literal
  | .hostName e => e.message
  | .json e => e.message
  | .closed => "Cannot send a request, as the client has been closed."
  | .line e => e.message
  | .provider message => message
  | .location e => "Invalid URL in location header: " ++ e.message ++ "."
  | .tooManyRedirects => "Exceeded maximum allowed redirects."
  | .noScheme u => "unknown url type: " ++ Text.quoted u.text

namespace Request

/-- Fails if a cookie store cannot read a request: the names of its lines, and its URL. -/
def checkReadable (r : Request) : Except RequestError Unit := do
  r.lines.lookUp.mapError .line
  if r.url.scheme = "" then .error (.noScheme r.url)

/-- The request with a line for its cookies, unless it has one. If there are any cookies, its lines
are read, and so their encoding is found out. -/
def withCookies (r : Request) (store : Request → Kept) : Except RequestError Request :=
  match store r with
  | .nothing => .ok r
  | .cookies text => do
    r.checkReadable
    let encoding := r.lines.encoding
    match text with
    | some text =>
      if r.lines.has "Cookie" then return { r with encoding := some encoding }
      else
        let value ← (encoding.encode text.toList).mapError .line
        return { r with lines := r.lines ++ [⟨ascii "Cookie", value⟩], encoding := some encoding }
    | none => return { r with encoding := some encoding }

/-- The line that names the host, unless there is one or the URL has no host. -/
def hostLine (url : Url) (lines : Lines) : Except RequestError Lines :=
  if lines.has "Host" then .ok []
  else match url.hostCodes with
    | .error e => .error (.hostName e)
    | .ok host => .ok (if host = [] then [] else [.ofAscii "Host" url.netloc])

/-- The lines with those that a request needs in front: the host, and the length of a body that is
expected and absent. -/
def complete (method : String) (url : Url) (lines : Lines) : Except RequestError Lines := do
  let host ← hostLine url lines
  let length := if method = "POST" ∧ !lines.has "Content-Length" ∧ !lines.has "Transfer-Encoding"
    then [Line.ofAscii "Content-Length" "0"] else []
  return host ++ length ++ lines

/-- The value of the line that carries a user name and a password. -/
def basicAuthorization (username password : String) : String :=
  "Basic " ++ String.ofList (Text.base64 (ascii username ++ [58] ++ ascii password))

/-- The request with the user information of its URL as credentials. -/
def authorized (r : Request) : Request :=
  if r.url.username = "" ∧ r.url.password = "" then r
  else
    let value := basicAuthorization r.url.username r.url.password
    { r with lines := r.lines.set (.ofAscii "Authorization" value) }

end Request

namespace Client

/-- What is given as a URL. -/
def readUrl (v : Value) : Except RequestError Url :=
  match v, v.text? with
  | .url u, _ => .ok u
  | _, some s => (Url.parse s).mapError .url
  | v, none => .error (.urlType v)

/-- The URL that a request goes to: a relative one is appended to the base, an absolute one is
taken as it is. -/
def target (c : Client) (u : Url) : Except RequestError Url :=
  if u.isAbsolute then .ok u
  else
    let path := String.ofList (u.rawPath.toList.dropWhile (· = '/'))
    (c.base.update { rawPath := some (c.base.rawPath ++ path) }).mapError .url

/-- A request before any provider was asked; a payload that is null is no body. -/
def request (c : Client) (method : String) (url payload : Value) : Except RequestError Request := do
  let url ← c.target (← readUrl url)
  let start ← Request.withCookies ⟨method, url, c.lines, [], none⟩ (c.cookies c.seen)
  match payload with
  | .null => return ⟨method, url, ← Request.complete method url start.lines, [], none⟩
  | payload =>
    let body := ascii (← (Json.text payload).mapError .json)
    let lines :=
      (start.lines.orDefault (.ofAscii "Content-Length" (toString body.length))).orDefault
        (.ofAscii "Content-Type" "application/json")
    return ⟨method, url, ← Request.complete method url lines, body, none⟩

end Client

end Egress
