import Egress.Proofs.Http.Overlay
import Egress.Proofs.Http.Written

/-!
# Rounds of providers

For every request that is about to go out, and so for every redirect as well, the providers are
asked in a round. To say which calls there are, the providers are replaced by ones that note every
call; apart from the notes nothing changes. An exchange is then a sequence of rounds. In a complete
round each provider is called once, in order, about the URL of the request, and the request goes
out with the headers of the answers put over its lines. A round ends early when a provider fails or
gives a header that cannot be written; then the request does not go out, and the exchange is over.

## Key results

- `Ask.noting`, `Call`: providers that note their calls
- `Round.Fits`: what a round looks like, complete or not
- `Rounds`: which request each round starts from
- `rounds_of_send`: every exchange consists of such rounds and of nothing else
- `first_eq_of_send`: the first request that goes out
-/

namespace Egress

open Egress.Http

/-! ### Calls -/

/-- A call of a provider: who was asked about which URL, and the answer. -/
structure Call where
  provider : Value
  -- The URL of the request that the provider was asked about.
  url : Url
  answer : Except RequestError (List Value)

/-- Providers that answer as before and note every call. -/
def Ask.noting (ask : Ask σ) : Ask (σ × List Call) := fun s provider url =>
  let (t, answer) := ask s.1 provider url
  ((t, s.2 ++ [⟨provider, url, answer⟩]), answer)

/-- The lines of the headers that a call has given. -/
def Call.lines (e : Encoding) (c : Call) : Except RequestError Lines :=
  c.answer.bind fun headers => (headers.mapM (headerLine e)).mapError .line

/-- The lines that calls have given, one call after the other. -/
def linesOf (e : Encoding) (calls : List Call) : Except RequestError Lines :=
  (calls.mapM (Call.lines e)).map List.flatten

/-- The lines of the first call come before those of the others. -/
theorem linesOf_cons (e : Encoding) (c : Call) (calls : List Call) :
    linesOf e (c :: calls) = (c.lines e).bind fun a => (linesOf e calls).map (a ++ ·) := by
  rw [linesOf, List.mapM_cons]
  cases c.lines e with
  | error f => rfl
  | ok a =>
    rw [linesOf]
    cases calls.mapM (Call.lines e) with
    | error f => rfl
    | ok rest => rfl

/-- The same where all calls have lines. -/
theorem linesOf_cons_of_ok {e : Encoding} {c : Call} {calls : List Call} {first given : Lines}
    (hfirst : c.lines e = .ok first) (hgiven : linesOf e calls = .ok given) :
    linesOf e (c :: calls) = .ok (first ++ given) := by
  rw [linesOf_cons, hfirst, hgiven]
  rfl

/-- The lines that calls have given are written from the headers of their answers. -/
theorem writes_of_linesOf {e : Encoding} {calls : List Call} {given : Lines}
    (h : linesOf e calls = .ok given) : ∃ answers : List (List Value),
      calls.map Call.answer = answers.map .ok ∧
        List.Forall₂ (Writes e) answers.flatten given := by
  -- By induction on the calls, one answer for each.
  induction calls generalizing given with
  | nil =>
    cases h
    exact ⟨[], rfl, .nil⟩
  | cons c rest ih =>
    rw [linesOf_cons] at h
    obtain ⟨first, hfirst, h⟩ := bind_eq_ok.1 h
    obtain ⟨more, hmore, rfl⟩ := map_eq_ok.1 h
    obtain ⟨headers, hanswer, hwritten⟩ := bind_eq_ok.1 hfirst
    obtain ⟨answers, hanswers, hrest⟩ := ih hmore
    refine ⟨headers :: answers, by rw [List.map_cons, hanswer, hanswers, List.map_cons], ?_⟩
    exact List.rel_append (mapM_headerLine_eq_ok.1 (mapError_eq_ok.1 hwritten)) hrest

/-! ### Rounds -/

/-- A round: a request as it was built, the calls of the providers about it, and the request that
went out or the reason why none did. -/
structure Round where
  built : Request
  calls : List Call
  outcome : Except RequestError Request

/-- What a round of providers looks like. -/
inductive Round.Fits (providers : List Value) : Round → Prop where
  -- Every provider was called once, in order, about the URL of the request, and all have answered.
  -- The request goes out with their headers put over its own lines, and is otherwise as it was
  -- built.
  | complete {built : Request} {calls : List Call} {answers : List (List Value)}
    {given lines : Lines} (asked : calls.map Call.provider = providers)
    (urls : ∀ c ∈ calls, c.url = built.url) (answered : calls.map Call.answer = answers.map .ok)
    (written : List.Forall₂ (Writes built.setEncoding) answers.flatten given)
    (overlaid : Lines.Overlaid built.lines given lines) :
    Fits providers ⟨built, calls, .ok { built with lines := lines }⟩
  -- A provider failed after those before it had answered. Those behind it were not called, and
  -- nothing goes out.
  | failed {built : Request} {calls : List Call} {last : Call} {behind : List Value}
    {answers : List (List Value)} {e : RequestError}
    (asked : (calls ++ [last]).map Call.provider ++ behind = providers)
    (urls : ∀ c ∈ calls ++ [last], c.url = built.url)
    (answered : calls.map Call.answer = answers.map .ok) (failed : last.answer = .error e) :
    Fits providers ⟨built, calls ++ [last], .error e⟩
  -- A provider gave a header that cannot be written, behind others that can. Those behind it were
  -- not called, and nothing goes out.
  | unwritable {built : Request} {calls : List Call} {last : Call} {behind : List Value}
    {answers : List (List Value)} {before after : List Value} {header : Value} {e : LineError}
    (asked : (calls ++ [last]).map Call.provider ++ behind = providers)
    (urls : ∀ c ∈ calls ++ [last], c.url = built.url)
    (answered : calls.map Call.answer = answers.map .ok)
    (gave : last.answer = .ok (before ++ header :: after))
    (written : ∀ h ∈ answers.flatten ++ before, ∃ l, Writes built.setEncoding h l)
    (unwritten : ∀ l, ¬Writes built.setEncoding header l) :
    Fits providers ⟨built, calls ++ [last], .error (.line e)⟩

/-- A round that is over with a call: its provider failed, or gave a header that cannot be
written. -/
theorem fits_of_lines_eq_error {providers behind : List Value} {built : Request}
    {calls : List Call} {last : Call} {given : Lines} {e : RequestError}
    (hasked : (calls ++ [last]).map Call.provider ++ behind = providers)
    (hurls : ∀ c ∈ calls ++ [last], c.url = built.url)
    (hgiven : linesOf built.setEncoding calls = .ok given)
    (hlast : last.lines built.setEncoding = .error e) :
    Round.Fits providers ⟨built, calls ++ [last], .error e⟩ := by
  obtain ⟨answers, hanswers, hwritten⟩ := writes_of_linesOf hgiven
  rw [Call.lines] at hlast
  -- The last call failed in its provider, or else in one of the headers of its answer.
  cases hanswer : last.answer with
  | error f =>
    rw [hanswer] at hlast
    cases hlast
    exact .failed hasked hurls hanswers hanswer
  | ok headers =>
    rw [hanswer] at hlast
    cases hheaders : headers.mapM (headerLine built.setEncoding) with
    | ok lines =>
      simp [Except.bind, hheaders, mapError_ok] at hlast
    | error f =>
      obtain ⟨before, header, after, rfl, hbefore, hheader⟩ := mapM_headerLine_eq_error hheaders
      simp only [Except.bind, hheaders] at hlast
      cases hlast
      -- Every header before it was written: those of earlier calls, and those before it in the
      -- answer.
      refine .unwritable hasked hurls hanswers hanswer (fun h hh => ?_) hheader
      rcases List.mem_append.1 hh with hh | hh
      · exact writes_of_mem hwritten hh
      · exact hbefore h hh

/-- The rounds of an exchange that begins with a request and takes the given responses: each round
but the first starts from the request that the response to the one before it asks for, with the
cookies that are kept after that response. -/
inductive Rounds (cookies : CookieRule) : Request → List Response → Answered → List Round → Prop
    where
  | last {request : Request} {responses : List Response} {seen : Answered} {r : Round}
    (starts : r.built = request) : Rounds cookies request responses seen [r]
  | redirected {request : Request} {responses : List Response} {seen seen' : Answered} {r : Round}
    {out next : Request} {location : String} {rest : List Round} (starts : r.built = request)
    (sent : r.outcome = .ok out) (grows : seen' = seen ++ [(out, responses.headD {})])
    (asks : (responses.headD {}).location? = some location)
    (leads : (responses.headD {}).redirect out location (cookies seen') = .ok next)
    (others : Rounds cookies next (responses.drop 1) seen' rest) :
    Rounds cookies request responses seen (r :: rest)

namespace Exchange

variable {σ : Type} {ask : Ask σ}

/-- Notes have no influence on a round. -/
theorem setHeaders_noting (ask : Ask σ) (s : σ) (calls : List Call) (r : Request)
    (providers : List Value) :
    ((setHeaders ask.noting (s, calls) r providers).1.1,
      (setHeaders ask.noting (s, calls) r providers).2) = setHeaders ask s r providers := by
  -- By induction on the providers; a note changes neither the answer nor the request.
  induction providers generalizing s calls r with
  | nil => rfl
  | cons p rest ih =>
    simp only [setHeaders, Ask.noting]
    obtain ⟨t, answer⟩ := ask s p r.url
    cases answer with
    | error e => rfl
    | ok headers =>
      simp only
      cases headers.foldlM Request.setHeader r with
      | error e => rfl
      | ok r => exact ih t _ r

/-- The next provider is called about the URL of the request. The lines that it gives are set, or
the round is over. -/
theorem setHeaders_noting_cons (ask : Ask σ) (s : σ) (calls : List Call) (r : Request) (p : Value)
    (rest : List Value) : ∃ t answer,
    setHeaders ask.noting (s, calls) r (p :: rest) =
      match Call.lines r.setEncoding ⟨p, r.url, answer⟩ with
      | .error e => ((t, calls ++ [⟨p, r.url, answer⟩]), .error e)
      | .ok given => setHeaders ask.noting (t, calls ++ [⟨p, r.url, answer⟩])
          { r with lines := given.foldl Lines.set r.lines } rest := by
  refine ⟨(ask s p r.url).1, (ask s p r.url).2, ?_⟩
  simp only [setHeaders, Ask.noting, Call.lines]
  -- Without an answer nothing is set; with one, its headers are set in order, unless one has no
  -- line.
  cases (ask s p r.url).2 with
  | error e => rfl
  | ok headers =>
    simp only [foldlM_setHeader, Except.bind]
    cases headers.mapM (headerLine r.setEncoding) with
    | error e => rfl
    | ok given => rfl

/-- A round that succeeds has called every provider and set the lines of all answers. -/
theorem calls_of_setHeaders_ok {s t : σ} {calls calls' : List Call} {r r' : Request}
    {providers : List Value}
    (h : setHeaders ask.noting (s, calls) r providers = ((t, calls'), .ok r')) :
    ∃ new given, calls' = calls ++ new ∧ new.map Call.provider = providers ∧
      (∀ c ∈ new, c.url = r.url) ∧ linesOf r.setEncoding new = .ok given ∧
      r' = { r with lines := given.foldl Lines.set r.lines } := by
  -- By induction on the providers, with the call that was made put in front of the others.
  induction providers generalizing s calls r with
  | nil =>
    cases h
    exact ⟨[], [], by simp, rfl, by simp, rfl, rfl⟩
  | cons p rest ih =>
    obtain ⟨u, answer, hstep⟩ := setHeaders_noting_cons ask s calls r p rest
    rw [hstep] at h
    split at h
    · cases h
    · rename_i first hfirst
      obtain ⟨new, given, hcalls, hasked, hurls, hgiven, hr⟩ := ih h
      -- Calls, providers, URLs, lines and the request, in this order.
      refine ⟨⟨p, r.url, answer⟩ :: new, first ++ given, ?_, ?_, ?_, ?_, ?_⟩
      · rw [hcalls, List.append_assoc, List.singleton_append]
      · rw [List.map_cons, hasked]
      · simpa using hurls
      · exact linesOf_cons_of_ok hfirst hgiven
      · rw [hr, List.foldl_append]

/-- A round that fails has called the providers up to one that failed, or gave a header that cannot
be written. -/
theorem calls_of_setHeaders_error {s t : σ} {calls calls' : List Call} {r : Request}
    {providers : List Value} {e : RequestError}
    (h : setHeaders ask.noting (s, calls) r providers = ((t, calls'), .error e)) :
    ∃ new last behind given, calls' = calls ++ (new ++ [last]) ∧
      (new ++ [last]).map Call.provider ++ behind = providers ∧
      (∀ c ∈ new ++ [last], c.url = r.url) ∧ linesOf r.setEncoding new = .ok given ∧
      last.lines r.setEncoding = .error e := by
  induction providers generalizing s calls r with
  | nil => cases h
  | cons p rest ih =>
    obtain ⟨u, answer, hstep⟩ := setHeaders_noting_cons ask s calls r p rest
    rw [hstep] at h
    split at h
    -- This provider ended the round.
    · rename_i failure hfirst
      cases h
      exact ⟨[], ⟨p, r.url, answer⟩, rest, [], rfl, rfl, by simp, rfl, hfirst⟩
    -- A later one did; this one's lines were set before.
    · rename_i first hfirst
      obtain ⟨new, last, behind, given, hcalls, hasked, hurls, hgiven, hlast⟩ := ih h
      refine ⟨⟨p, r.url, answer⟩ :: new, last, behind, first ++ given, ?_, ?_, ?_, ?_, hlast⟩
      · rw [hcalls, List.append_assoc, List.singleton_append, List.cons_append]
      · rw [List.cons_append, List.map_cons, List.cons_append, hasked]
      · simpa using hurls
      · exact linesOf_cons_of_ok hfirst hgiven

/-- Every round has the shape of a round, and notes its calls behind those before. -/
theorem fits_setHeaders (ask : Ask σ) (s : σ) (calls : List Call) (r : Request)
    (providers : List Value) :
    ∃ new, (setHeaders ask.noting (s, calls) r providers).1.2 = calls ++ new ∧
      Round.Fits providers ⟨r, new, (setHeaders ask.noting (s, calls) r providers).2⟩ := by
  obtain ⟨⟨⟨t, calls'⟩, outcome⟩, h⟩ :
      ∃ x, setHeaders ask.noting (s, calls) r providers = x := ⟨_, rfl⟩
  rw [h]
  -- How the round ended decides which of the shapes it has.
  cases outcome with
  | error e =>
    obtain ⟨new, last, behind, given, hcalls, hasked, hurls, hgiven, hlast⟩ :=
      calls_of_setHeaders_error h
    exact ⟨new ++ [last], hcalls, fits_of_lines_eq_error hasked hurls hgiven hlast⟩
  | ok r' =>
    obtain ⟨new, given, hcalls, hasked, hurls, hgiven, rfl⟩ := calls_of_setHeaders_ok h
    obtain ⟨answers, hanswers, hwritten⟩ := writes_of_linesOf hgiven
    exact ⟨new, hcalls, .complete hasked hurls hanswers hwritten
      (Lines.overlaid_foldl_set given r.lines)⟩

/-- A response leads to another request only if it names a location. -/
theorem redirect_of_afterResponse {follow : Bool} {sent next : Request} {response : Response}
    {history : List Int} {store : Request → Kept}
    (h : afterResponse follow sent response history store = .ok (.inr next)) :
    ∃ location, response.location? = some location ∧
      response.redirect sent location store = .ok next := by
  rw [afterResponse] at h
  split at h
  · cases h
  · rename_i location hlocation
    obtain ⟨request, hrequest, h⟩ := bind_eq_ok.1 h
    refine ⟨location, hlocation, ?_⟩
    -- A response that is not followed ends the exchange.
    cases follow <;> cases h
    exact hrequest

/-- What an exchange is made of: the calls that were noted and the requests that went out are those
of the rounds, and a round without a request ends the exchange by its error. -/
structure MadeOf (providers : List Value) (rounds : List Round)
    (before after : Exchange (σ × List Call)) (result : Except RequestError Result) : Prop where
  fits : ∀ r ∈ rounds, r.Fits providers
  calls : after.providers.2 = before.providers.2 ++ rounds.flatMap (·.calls)
  sent : after.sent = before.sent ++ rounds.filterMap (·.outcome.toOption)
  failed : ∀ r ∈ rounds, ∀ e, r.outcome = .error e → result = .error e

variable {providers : List Value} {r : Round} {x y z : Exchange (σ × List Call)}
  {result : Except RequestError Result}

/-- A single round without a request. -/
theorem madeOf_broken {e : RequestError} (hfits : r.Fits providers) (hout : r.outcome = .error e)
    (hcalls : y.providers.2 = x.providers.2 ++ r.calls) (hsent : y.sent = x.sent) :
    MadeOf providers [r] x y (.error e) where
  fits := by simpa using hfits
  calls := by simpa using hcalls
  sent := by simpa [hout, Except.toOption] using hsent
  failed := by
    intro r' hr' e' he'
    rw [List.mem_singleton.1 hr', hout] at he'
    cases he'
    rfl

/-- One more round, whose request went out, before the others. -/
theorem MadeOf.cons {rounds : List Round} {out : Request} (h : MadeOf providers rounds y z result)
    (hfits : r.Fits providers) (hout : r.outcome = .ok out)
    (hcalls : y.providers.2 = x.providers.2 ++ r.calls) (hsent : y.sent = x.sent ++ [out]) :
    MadeOf providers (r :: rounds) x z result where
  fits := by simpa using ⟨hfits, h.fits⟩
  calls := by rw [h.calls, hcalls, List.flatMap_cons, List.append_assoc]
  sent := by simp [h.sent, hsent, hout, Except.toOption]
  failed := by simpa [hout] using h.failed

theorem madeOf_nil (x : Exchange (σ × List Call)) (result : Except RequestError Result) :
    MadeOf providers [] x x result :=
  ⟨by simp, by simp, by simp, by simp⟩

/-- The rounds of a request with at most so many hops. -/
theorem rounds_of_sendWithin (ask : Ask σ) (cookies : CookieRule) (providers : List Value)
    (follow : Bool) {hops : Nat} (hpos : 0 < hops) (request : Request) (history : List Int)
    (x : Exchange (σ × List Call)) :
    ∃ rounds, Rounds cookies request x.responses x.seen rounds ∧ MadeOf providers rounds x
      (sendWithin ask.noting cookies providers follow hops request history x).1
      (sendWithin ask.noting cookies providers follow hops request history x).2 := by
  -- By induction on the hops. Without a redirect the round is the last, and with one the rounds of
  -- the next request follow.
  induction hops generalizing request history x with
  | zero => exact absurd hpos (Nat.lt_irrefl 0)
  | succ hops ih =>
    obtain ⟨⟨s, calls⟩, responses, seen, sent, records⟩ := x
    obtain ⟨new, hnew, hfits⟩ := fits_setHeaders ask s calls request providers
    simp only [sendWithin]
    cases hround : setHeaders ask.noting (s, calls) request providers with
    | mk t outcome =>
      rw [hround] at hnew hfits
      cases outcome with
      | error e => exact ⟨_, .last rfl, madeOf_broken hfits rfl hnew rfl⟩
      | ok out =>
        simp only
        split
        · -- the response or the request cannot be read, and the exchange is over
          exact ⟨_, .last rfl, (madeOf_nil _ _).cons hfits rfl hnew rfl⟩
        · -- the response decides whether another round follows
          split
          · exact ⟨_, .last rfl, (madeOf_nil _ _).cons hfits rfl hnew rfl⟩
          · exact ⟨_, .last rfl, (madeOf_nil _ _).cons hfits rfl hnew rfl⟩
          · rename_i next hafter
            -- Another round is made only if a hop is left.
            rcases Nat.eq_zero_or_pos hops with rfl | hmore
            · exact ⟨_, .last rfl, (madeOf_nil _ _).cons hfits rfl hnew rfl⟩
            · obtain ⟨location, hlocation, hredirect⟩ := redirect_of_afterResponse hafter
              obtain ⟨rounds, hrounds, hmade⟩ := ih hmore next
                (history ++ [(responses.headD {}).status])
                ⟨t, responses.drop 1, seen ++ [(out, responses.headD {})], sent ++ [out],
                  records ++ roundRecords providers out.url⟩
              exact ⟨_, .redirected rfl rfl rfl hlocation hredirect hrounds,
                hmade.cons hfits rfl hnew rfl⟩

/-- An exchange without its notes. -/
def withoutNotes (x : Exchange (σ × List Call)) : Exchange σ :=
  { x with providers := x.providers.1 }

/-- Notes have no influence on an exchange. -/
theorem sendWithin_noting (cookies : CookieRule) (follow : Bool) (hops : Nat) (request : Request)
    (history : List Int) (x : Exchange (σ × List Call)) :
    ((sendWithin ask.noting cookies providers follow hops request history x).1.withoutNotes,
      (sendWithin ask.noting cookies providers follow hops request history x).2) =
      sendWithin ask cookies providers follow hops request history x.withoutNotes := by
  -- By induction on the hops, with each round the same by the lemma about rounds.
  induction hops generalizing request history x with
  | zero => rfl
  | succ hops ih =>
    obtain ⟨⟨s, calls⟩, responses, seen, sent, records⟩ := x
    have hsame := setHeaders_noting ask s calls request providers
    simp only [sendWithin, withoutNotes] at ih ⊢
    rw [← hsame]
    obtain ⟨⟨t, calls'⟩, outcome⟩ := setHeaders ask.noting (s, calls) request providers
    cases outcome with
    | error e => rfl
    | ok out =>
      simp only
      cases (checkResponse (responses.headD {})).bind fun _ => out.checkReadable with
      | error e => rfl
      | ok _ =>
        simp only
        cases afterResponse follow out (responses.headD {}) history
            (cookies (seen ++ [(out, responses.headD {})])) with
        | error e => rfl
        | ok reaction =>
          cases reaction with
          | inl found => rfl
          | inr next => exact ih _ _ _

/-- An exchange over a destination, whatever its providers answer in whatever state, whatever the
responses are, whatever cookies are kept and whatever is requested, consists of rounds and of
nothing else, and the notes by which this is said have no influence on it. The first round starts
from the request with the credentials of its URL, each later one from the request that the response
before it asks for. -/
theorem rounds_of_send (ask : Ask σ) (c : Client) (request : Request) (s : σ)
    (responses : List Response) :
    let follow := c.followRedirects.isTruthy
    let noted := send ask.noting c.cookies c.destination.providers follow request
      ⟨(s, []), responses, c.seen, [], []⟩
    (noted.1.withoutNotes, noted.2) = send ask c.cookies c.destination.providers follow request
        ⟨s, responses, c.seen, [], []⟩ ∧
      ∃ rounds, Rounds c.cookies request.authorized responses c.seen rounds ∧
        (∀ r ∈ rounds, r.Fits c.destination.providers) ∧
        noted.1.providers.2 = rounds.flatMap (·.calls) ∧
        noted.1.sent = rounds.filterMap (·.outcome.toOption) ∧
        ∀ r ∈ rounds, ∀ e, r.outcome = .error e → noted.2 = .error e := by
  intro follow noted
  -- The rounds are those of all hops, of which there is at least one.
  obtain ⟨rounds, hrounds, hmade⟩ := rounds_of_sendWithin ask c.cookies c.destination.providers
    follow (Nat.succ_pos maxRedirects) request.authorized [] ⟨(s, []), responses, c.seen, [], []⟩
  exact ⟨sendWithin_noting _ follow _ _ _ _, rounds, hrounds, hmade.fits, hmade.calls, hmade.sent,
    hmade.failed⟩

/-- A destination with a header, and with two providers. -/
private def spelledDestination : Destination :=
  ⟨.ofEntries [(.text "URL", .text "http://h")], [.header (.text "X-A") (.text "0")],
    [.int 0, .int 1], none⟩

/-- Providers that give the same header in different letter case, one of them with a letter outside
ASCII. -/
private def spelling : Ask Unit := fun s provider _ => (s, .ok [match provider with
  | .int 0 => .header (.text "X-a") (.text "1")
  | _ => .header (.text "x-A") (.text "é")])

/-- A redirect that sets a cookie. -/
private def settingCookie : List Response :=
  [⟨302, [("Location", "/q"), ("Set-Cookie", "k=v")], ""⟩]

/-- A store that has the cookie after a response that sets it. -/
private def oneCookie : CookieRule := fun seen _ =>
  if seen.any fun x => x.2.headers.contains ("Set-Cookie", "k=v") then .cookies (some "k=v")
  else .nothing

/-- The lines of the requests that go out. -/
private def spelledLines : Option (List Lines) := do
  let c ← (Client.ofDestination spelledDestination {} oneCookie).toOption
  let r ← (c.request "GET" (.text "/p") .null).toOption
  let x := send spelling c.cookies c.destination.providers c.followRedirects.isTruthy r
    ⟨(), settingCookie, c.seen, [], []⟩
  return x.1.sent.map (·.lines)

/-- Of two providers that give the same header in different letter case the second decides, before
and after a redirect that sets a cookie. -/
theorem rounds_of_send_redirected :
    ∃ c r first second rounds, Client.ofDestination spelledDestination {} oneCookie = .ok c ∧
      c.request "GET" (.text "/p") .null = .ok r ∧
      (send spelling c.cookies c.destination.providers c.followRedirects.isTruthy r
        ⟨(), settingCookie, c.seen, [], []⟩).1.sent = [first, second] ∧
      Rounds c.cookies r.authorized settingCookie c.seen rounds ∧
      (∀ round ∈ rounds, round.Fits c.destination.providers) ∧
      rounds.filterMap (·.outcome.toOption) = [first, second] ∧
      first.lines.filter (Lines.isNamed (ascii "X-A")) = [⟨ascii "x-A", [0xC3, 0xA9]⟩] ∧
      second.lines.filter (Lines.isNamed (ascii "X-A")) = [⟨ascii "x-A", [0xC3, 0xA9]⟩] ∧
      second.lines.filter (Lines.isNamed (ascii "Cookie")) = [.ofAscii "Cookie" "k=v"] := by
  have hlines : spelledLines = some
      [.ofAscii "Host" "h" :: Client.defaultLines ++ [⟨ascii "x-A", [0xC3, 0xA9]⟩],
        .ofAscii "Host" "h" :: Client.defaultLines ++
          [⟨ascii "x-A", [0xC3, 0xA9]⟩, .ofAscii "Cookie" "k=v"]] := by
    decide +kernel
  -- Client, request and the two requests that went out, taken from the evaluation.
  obtain ⟨c, hc, hlines⟩ := Option.bind_eq_some_iff.1 hlines
  obtain ⟨r, hr, hlines⟩ := Option.bind_eq_some_iff.1 hlines
  obtain ⟨first, more, hsent, hfirst, hmore⟩ := List.map_eq_cons_iff.1 (Option.some.inj hlines)
  obtain ⟨second, rfl, hsecond⟩ := List.map_eq_singleton_iff.1 hmore
  obtain ⟨hsame, rounds, hrounds, hfits, _, hout, _⟩ := rounds_of_send spelling c r () settingCookie
  have hout := hout.symm.trans (congrArg (·.1.sent) hsame)
  refine ⟨c, r, first, second, rounds, toOption_eq_some.1 hc, toOption_eq_some.1 hr, hsent,
    hrounds, hfits, hout.trans hsent, ?_, ?_, ?_⟩
  · rw [hfirst]
    decide
  · rw [hsecond]
    decide
  · rw [hsecond]
    decide

/-! ### The first request -/

/-- The calls of the providers before the first request goes out. -/
def firstCalls (ask : Ask σ) (s : σ) (request : Request) (providers : List Value) : List Call :=
  (setHeaders ask.noting (s, []) request.authorized providers).1.2

/-- Requests that went out stay noted. -/
theorem sent_grows (cookies : CookieRule) (follow : Bool) (hops : Nat) (request : Request)
    (history : List Int) (x : Exchange σ) :
    x.sent <+: (sendWithin ask cookies providers follow hops request history x).1.sent := by
  -- By induction on the hops: each round adds a request behind the others, or none.
  induction hops generalizing request history x with
  | zero => exact List.prefix_rfl
  | succ hops ih =>
    rw [sendWithin]
    split
    · exact List.prefix_rfl
    · rename_i t out _
      have hout : x.sent <+: x.sent ++ [out] := List.prefix_append _ _
      dsimp only
      split
      · exact hout
      · split
        · exact hout
        · exact hout
        · exact hout.trans (ih _ _ ⟨t, x.responses.drop 1, _, x.sent ++ [out], _⟩)

section

variable {cookies : CookieRule} {follow : Bool} {request first : Request} {s : σ}
  {responses : List Response} {seen : Answered} {rest : List Request}

/-- The first request that goes out is the outcome of the first round. -/
theorem setHeaders_of_send (h : (send ask cookies providers follow request
      ⟨s, responses, seen, [], []⟩).1.sent = first :: rest) :
    (setHeaders ask s request.authorized providers).2 = .ok first := by
  rw [send, sendWithin] at h
  split at h
  · cases h
  · rename_i t out hround
    rw [hround]
    dsimp only at h
    -- The request of the first round is the first that went out, whatever follows it.
    have hsent : [out] <+: first :: rest := by
      rw [← h]
      split
      · exact List.prefix_rfl
      · split
        · exact List.prefix_rfl
        · exact List.prefix_rfl
        · exact sent_grows _ _ _ _ _ ⟨t, responses.drop 1, _, [out], _⟩
    rw [(List.cons_prefix_cons.1 hsent).1]

/-- The first request that goes out is the one with the credentials of its URL, with the lines that
the providers have given put over its own. -/
theorem first_eq_of_send (h : (send ask cookies providers follow request
      ⟨s, responses, seen, [], []⟩).1.sent = first :: rest) :
    ∃ given, linesOf request.authorized.setEncoding (firstCalls ask s request providers) =
      .ok given ∧ first =
        { request.authorized with lines := given.foldl Lines.set request.authorized.lines } := by
  have hround := setHeaders_of_send h
  rw [← setHeaders_noting ask s [] request.authorized providers] at hround
  -- The same round with notes, which name the calls.
  obtain ⟨⟨⟨t, calls⟩, outcome⟩, hnoted⟩ :
      ∃ x, setHeaders ask.noting (s, []) request.authorized providers = x := ⟨_, rfl⟩
  rw [hnoted] at hround
  cases hround
  obtain ⟨new, given, hcalls, _, _, hgiven, hfirst⟩ := calls_of_setHeaders_ok hnoted
  refine ⟨given, ?_, hfirst⟩
  rw [firstCalls, hnoted, hcalls, List.nil_append]
  exact hgiven

end

end Exchange

end Egress
