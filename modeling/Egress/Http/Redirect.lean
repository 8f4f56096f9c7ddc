import Egress.Http.Client
import Egress.Url.Join

/-! # Redirects

A response may ask for another request: to the URL of its location, by a method that follows from
its status, and with header lines that fit the new URL.

* `Response.redirect`   the request that a response asks for -/

namespace Egress

open Egress.Http

namespace Response

/-- The statuses that ask for another request. -/
def redirectStatuses : List Int := [301, 302, 303, 307, 308]

/-- Where a response redirects to, if it does. -/
def location? (r : Response) : Option String :=
  let values := r.headers.filter fun h => foldName (ascii h.1) == ascii "location"
  if redirectStatuses.contains r.status ∧ values ≠ [] then
    some (", ".intercalate (values.map (·.2)))
  else none

/-- The method of the next request. -/
def nextMethod (r : Response) (method : String) : String :=
  if r.status = 303 ∨ r.status = 302 then "GET"
  else if r.status = 301 ∧ method = "POST" then "GET"
  else method

end Response

namespace Url

/-- The port of a URL, or the usual one of http and https. -/
def effectivePort (u : Url) : Option Int :=
  match u.port with
  | some p => some p
  | none => if u.scheme = "http" then some 80 else if u.scheme = "https" then some 443 else none

/-- Whether two URLs have the same host, as it is read. -/
def sameHost (u v : Url) : Except RequestError Bool := do
  let a ← u.hostCodes.mapError .hostName
  let b ← v.hostCodes.mapError .hostName
  return a == b

/-- Whether two URLs have the same scheme, host and port. -/
def sameOrigin (u v : Url) : Except RequestError Bool :=
  if u.scheme ≠ v.scheme then .ok false
  else (sameHost u v).map fun same => same && u.effectivePort == v.effectivePort

/-- Whether the way from one URL to another leads from http to https of the same host, by the usual
ports. -/
def isUpgrade (u v : Url) : Except RequestError Bool :=
  (sameHost u v).map fun same => same && u.scheme == "http" && u.effectivePort == some 80 &&
    v.scheme == "https" && v.effectivePort == some 443

/-- The URL that a location names, seen from the URL that was requested. -/
def follow (from' : Url) (location : String) : Except RequestError Url := do
  let url ← (parse location).mapError .location
  let url ← if url.scheme = "" then pure url
    else if (← url.hostCodes.mapError .hostName) = [] then
      let host ← from'.hostCodes.mapError .hostName
      (url.update { host := some (String.ofList (host.map Char.ofNat)) }).mapError .url
    else pure url
  let url ← if url.isAbsolute then pure url else (from'.join url).mapError .url
  if from'.decodedFragment ≠ "" ∧ url.decodedFragment = "" then
    (url.update { fragment := some (some from'.decodedFragment) }).mapError .url
  else return url

end Url

namespace Request

/-- The header lines for the next request: at another origin without the authorization and with
another host, and without the lines about a body that is dropped. -/
def nextLines (r : Request) (url : Url) (dropBody : Bool) : Except RequestError Lines := do
  let lines ← if ← url.sameOrigin r.url then pure r.lines
    else do
      let lines := if ← r.url.isUpgrade url then r.lines else r.lines.remove "Authorization"
      pure (lines.set (.ofAscii "Host" url.netloc))
  let lines :=
    if dropBody then (lines.remove "Content-Length").remove "Transfer-Encoding" else lines
  return lines.remove "Cookie"

end Request

/-- The request that a response asks for, after the request that it answers, with the cookies that a
store has for it. -/
def Response.redirect (response : Response) (request : Request) (location : String)
    (store : Request → Kept) : Except RequestError Request := do
  let method := response.nextMethod request.method
  let url ← request.url.follow location
  let dropBody := method ≠ request.method && method == "GET"
  let lines ← request.nextLines url dropBody
  let body := if dropBody then [] else request.body
  let next ← Request.withCookies ⟨method, url, lines, body, none⟩ store
  if dropBody then return ⟨method, url, ← Request.complete method url next.lines, body, none⟩
  else return next

end Egress
