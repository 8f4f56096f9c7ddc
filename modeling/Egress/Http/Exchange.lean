import Egress.Http.Redirect

/-! # Exchanges

To send a request, the providers of the destination are asked in order, their headers are set on
the request, the request goes out, and the response is taken; a redirect starts over with the next
request. Providers and responses are outside of the library: `ask` says what a provider answers in
a state, and the responses are a queue. What was answered is what a cookie store goes by.

* `Exchange`             what has happened so far
* `Exchange.setHeaders`  the round of the providers
* `Exchange.send`        a request with all its redirects -/

namespace Egress

open Egress.Http

/-- What has happened so far. -/
structure Exchange (σ : Type) where
  providers : σ
  responses : List Response
  seen : Answered
  -- The requests that went out, in order.
  sent : List Request := []
  records : List Record := []

/-- The result of a request with all its redirects. -/
structure Result where
  response : Response
  url : Url
  -- The statuses of the responses before it.
  history : List Int

/-- What a provider answers in a state, about a request to a URL. -/
abbrev Ask (σ : Type) := σ → Value → Url → σ × Except RequestError (List Value)

/-- The encoding in which the headers of providers are set. -/
def Request.setEncoding (r : Request) : Encoding := r.encoding.getD .utf8

def Request.setHeader (r : Request) (header : Value) : Except RequestError Request := do
  let (name, value) ← (headerParts "value" header).mapError .line
  let line ← (Line.ofTexts r.setEncoding name value).mapError .line
  return { r with lines := r.lines.set line }

namespace Exchange

/-- The round of the providers: each is asked in order, and its headers are set on the request. -/
def setHeaders (ask : Ask σ) (s : σ) (r : Request) :
    List Value → σ × Except RequestError Request
  | [] => (s, .ok r)
  | p :: rest =>
    match ask s p r.url with
    | (s, .error e) => (s, .error e)
    | (s, .ok headers) => match headers.foldlM Request.setHeader r with
      | .error e => (s, .error e)
      | .ok r => setHeaders ask s r rest

/-- What is written about a round of providers. -/
def roundRecords (providers : List Value) (url : Url) : List Record :=
  if providers = [] then []
  else [⟨.debug, .http, "Applied " ++ toString providers.length ++ " header provider(s) to " ++
    url.text⟩]

/-- Whether the lines of a response can be read; the first that cannot decides. -/
def checkResponse (r : Response) : Except RequestError Unit :=
  (r.headers.mapM fun h => Line.ofValues (.text h.1) (.text h.2)).mapError .line |>.map fun _ => ()

/-- What comes after a response: a result, or the request that it asks for. -/
def afterResponse (follow : Bool) (request : Request) (response : Response) (history : List Int)
    (store : Request → Kept) : Except RequestError (Result ⊕ Request) :=
  match response.location? with
  | none => .ok (.inl ⟨response, request.url, history⟩)
  | some location => do
    let next ← response.redirect request location store
    if follow then return .inr next else return .inl ⟨response, request.url, history⟩

/-- Sends a request and what it is redirected to, with at most `hops` requests. -/
def sendWithin (ask : Ask σ) (cookies : CookieRule) (providers : List Value) (follow : Bool) :
    Nat → Request → List Int → Exchange σ → Exchange σ × Except RequestError Result
  | 0, _, _, x => (x, .error .tooManyRedirects)
  | hops + 1, request, history, x =>
    match setHeaders ask x.providers request providers with
    | (s, .error e) => ({ x with providers := s }, .error e)
    | (s, .ok request) =>
      let response := x.responses.headD {}
      let x : Exchange σ := ⟨s, x.responses.drop 1, x.seen, x.sent ++ [request],
        x.records ++ roundRecords providers request.url⟩
      match (checkResponse response).bind fun _ => request.checkReadable with
      | .error e => (x, .error e)
      | .ok _ =>
        let x := { x with seen := x.seen ++ [(request, response)] }
        match afterResponse follow request response history (cookies x.seen) with
        | .error e => (x, .error e)
        | .ok (.inl result) => (x, .ok result)
        | .ok (.inr next) =>
          sendWithin ask cookies providers follow hops next (history ++ [response.status]) x

/-- The most redirects that are followed. -/
def maxRedirects : Nat := 20

/-- Sends a request and what it is redirected to. -/
def send (ask : Ask σ) (cookies : CookieRule) (providers : List Value) (follow : Bool)
    (request : Request) (x : Exchange σ) : Exchange σ × Except RequestError Result :=
  sendWithin ask cookies providers follow (maxRedirects + 1) request.authorized [] x

end Exchange

end Egress
