import Egress.Proofs.Destination.Address
import Egress.Proofs.Http.Rounds
import Egress.Proofs.Url.Extension
import Egress.Proofs.Url.HostPort

/-!
# Where requests go

A client appends what is requested to the address of its destination. A request for a path of plain
segments goes to the server of the address. There the path and query of the address, as one text
without one slash at its end, are followed by what was requested: behind an address with a query,
the request extends the query, and the path stays as it was.

## Key results

- `SegmentPath`, `parse_segmentPath`: paths of plain segments, and how they are read
- `SameServer`, `base_of_baseOf`: the address as a base
- `url_of_request`: the URL of a request for a path of plain segments
- `first_of_send`: the first request that goes out
- `first_path_iff`: where it goes to
-/

namespace Egress

open Egress.Http Egress.Text Egress.Host Egress.Url

/-! ### Paths of plain segments -/

/-- An absolute path of plain segments: unreserved characters only, and no dot segments. -/
structure SegmentPath where
  segments : List (List Char)
  nonempty : segments ≠ []
  plain : ∀ s ∈ segments, s ≠ [] ∧ ¬IsDotSegment s ∧ ∀ c ∈ s, isUnreserved c = true

namespace SegmentPath

variable (p : SegmentPath)

/-- What follows the slash at the beginning. -/
def below : List Char := joinPath p.segments

/-- The path. -/
def text : List Char := '/' :: p.below

/-- No segment holds a slash. -/
private theorem splitBy_below : splitBy (· = '/') p.below = p.segments := by
  refine splitBy_joinPath p.nonempty fun s hs hslash => ?_
  have hno := (p.plain s hs).2.2 _ hslash
  revert hno
  decide

/-- Below the first slash there are slashes and unreserved characters. -/
theorem mem_below {c : Char} (h : c ∈ p.below) : c = '/' ∨ isUnreserved c = true := by
  rcases mem_splitBy (p := (· = '/')) h with hslash | ⟨s, hs, hc⟩
  · exact .inl (of_decide_eq_true hslash)
  · rw [p.splitBy_below] at hs
    exact .inr ((p.plain s hs).2.2 c hc)

/-- The first segment is not empty. -/
private theorem head_below : ∃ c rest, p.below = c :: rest ∧ c ≠ '/' := by
  have hsplit := p.splitBy_below
  cases hbelow : p.below with
  | nil =>
    rw [hbelow] at hsplit
    exact absurd rfl (p.plain [] (by rw [← hsplit]; exact List.mem_singleton_self [])).1
  | cons c rest =>
    refine ⟨c, rest, rfl, ?_⟩
    rintro rfl
    rw [hbelow, splitBy_cons_sep rfl] at hsplit
    exact absurd rfl (p.plain [] (by rw [← hsplit]; exact List.mem_cons_self)).1

/-- The path may follow the slash at the end of a path, and of a query. -/
theorem isBelow : IsBelow p.below := by
  constructor
  · intro s hs
    rw [p.splitBy_below] at hs
    exact (p.plain s hs).2.1
  · intro c hc
    rcases p.mem_below hc with rfl | hsafe
    · decide
    · exact safe_of_isUnreserved hsafe

/-- The path as a URL by itself. -/
def relative : Url := ⟨"", "", "", none, String.ofList p.text, none, none⟩

/-- No delimiter of a URL is in the path. -/
private theorem not_mem_text {d : Char} (hd : d ≠ '/') (hno : isUnreserved d = false) :
    d ∉ p.text := by
  intro hmem
  rcases List.mem_cons.1 hmem with hslash | hmem
  · exact hd hslash
  · rcases p.mem_below hmem with hslash | hsafe
    · exact hd hslash
    · rw [hno] at hsafe
      cases hsafe

/-- The path is a path and nothing else. -/
private theorem ofText_text : Written.ofText p.text = ⟨[], [], p.text, none, none⟩ := by
  obtain ⟨c, rest, hbelow, hc⟩ := p.head_below
  have hauthority : cutAuthority p.text = ([], p.text) := by
    rw [text, hbelow, cutAuthority]
    -- The path has no second slash, so it is not taken for an authority.
    intro more heq
    exact hc (List.cons.inj (List.cons.inj heq).2).1
  -- None of the delimiters of a URL is in it.
  have hcolon : ':' ∉ p.text := p.not_mem_text (by decide) (by decide)
  have hhash : '#' ∉ p.text := p.not_mem_text (by decide) (by decide)
  have hmark : '?' ∉ p.text := p.not_mem_text (by decide) (by decide)
  simp only [Written.ofText, cutScheme_of_not_mem hcolon, hauthority, cutOption_of_not_mem hhash,
    cutOption_of_not_mem hmark]

/-- How the path is read. -/
theorem parse_text {v : Url} (h : Url.parse (String.ofList p.text) = .ok v) : v = p.relative := by
  rw [parse_eq, guarded_eq_ok, String.toList_ofList, p.ofText_text] at h
  obtain ⟨c, rest, hbelow, hc⟩ := p.head_below
  -- The characters of the path need no escapes.
  have hsafe : encode pathSafe p.text = p.text := by
    refine encode_of_all fun c hc => ?_
    rcases List.mem_cons.1 hc with rfl | hc
    · decide
    · exact (p.isBelow.safe c hc).1
  -- Only a path that begins with two slashes could be mistaken for an authority.
  have hcheck : checkPath p.text false false = .ok () := by
    rw [text, hbelow]
    simp [checkPath, Ne.symm hc]
  have hempty : WrittenAuthority.ofText [] = ⟨[], [], []⟩ := rfl
  have hparts : ofParts ⟨[], [], p.text, none, none⟩ (WrittenAuthority.ofText []) =
      .ok p.relative := by
    rw [hempty]
    simp only [ofParts, normalHost, normalPort, encode_nil, bind, Except.bind, if_true]
    simp [hcheck, hsafe, relative, pure, Except.pure]
  exact (Except.ok.inj (hparts.symm.trans h.2.2)).symm

/-- The path and query of a relative reference are its text. -/
theorem rawPath_relative : p.relative.rawPath.toList = p.text := by
  have hslash : p.relative.pathOrSlash = String.ofList p.text := by
    rw [pathOrSlash, if_neg]
    · rfl
    · intro hempty
      have hnil := congrArg String.toList hempty
      rw [relative, String.toList_ofList] at hnil
      cases hnil
  rw [toList_rawPath, hslash, String.toList_ofList]
  exact List.append_nil _

end SegmentPath

/-! ### The address as a base -/

/-- A URL at the same server. -/
structure SameServer (u v : Url) : Prop where
  scheme : v.scheme = u.scheme
  host : v.host = u.host
  port : v.effectivePort = u.effectivePort

theorem SameServer.trans {u v w : Url} (h : SameServer u v) (h' : SameServer v w) :
    SameServer u w :=
  ⟨h'.scheme.trans h.scheme, h'.host.trans h.host, h'.port.trans h.port⟩

/-- The invariant of URLs that are extended: the addresses of servers, in normal form and lower
case. -/
structure ServerAddress (u : Url) : Prop where
  normal : u.Normal
  scheme : u.scheme = "http" ∨ u.scheme = "https"
  host : u.host ≠ ""
  lowered : lowered u.host.toList = u.host.toList

variable {u v : Url}

/-- The address of a server has a scheme. -/
theorem ServerAddress.scheme_ne (hu : ServerAddress u) : u.scheme ≠ "" := by
  rcases hu.scheme with h | h <;> rw [h] <;> decide

/-- A server keeps its address when path and query are replaced. -/
theorem ServerAddress.revised {r : List Char} (hu : ServerAddress u) (h : Revised u v r) :
    ServerAddress v ∧ SameServer u v := by
  have hhost : v.host = u.host := String.toList_inj.1 (h.host.trans hu.lowered)
  refine ⟨⟨h.normal, ?_, ?_, ?_⟩, h.scheme, hhost, ?_⟩
  · rw [h.scheme]
    exact hu.scheme
  · rw [hhost]
    exact hu.host
  · rw [hhost]
    exact hu.lowered
  · exact effectivePort_of_usual hu.scheme h.scheme h.port

/-- The address of a destination is that of a server. -/
theorem serverAddress_of_uri {d : Destination} (hu : d.uri = .ok u)
    (hscheme : u.scheme = "http" ∨ u.scheme = "https") (hhost : u.host ≠ "") :
    ServerAddress u := by
  obtain ⟨raw, _, hread⟩ := Properties.exists_of_uri hu
  obtain ⟨_, _, hparse, _⟩ := readUri_eq_ok hread
  exact ⟨parse_normal hparse, hscheme, hhost, (plainHost_of_readUri hread).2⟩

namespace Client

variable {c : Client}

/-- What a client is made of: the address of its destination as the base, and the defaults beside
the lines of the headers that are given. -/
theorem parts_of_ofDestination {d : Destination} {s : Settings} {cookies : CookieRule}
    (h : Client.ofDestination d s cookies = .ok c) :
      (c.destination = d ∧ c.cookies = cookies ∧ c.seen = []) ∧
      (∃ u, d.uri = .ok u ∧ baseOf u = .ok c.base) ∧
      ∃ headers given, givenHeaders d s = .ok headers ∧
        headers.mapM (fun h => Line.ofValues h.1 h.2) = .ok given ∧
        mergeLines defaultLines given = .ok c.lines := by
  obtain ⟨headers, hheaders, h⟩ := bind_eq_ok.1 h
  obtain ⟨u, hu, h⟩ := bind_eq_ok.1 h
  obtain ⟨_, _, h⟩ := bind_eq_ok.1 h
  obtain ⟨_, _, h⟩ := bind_eq_ok.1 h
  dsimp only at h
  -- what follows is the same with and without a proxy
  split at h
  case' h_2 => obtain ⟨_, _, h⟩ := bind_eq_ok.1 h
  all_goals
    obtain ⟨base, hbase, h⟩ := bind_eq_ok.1 h
    obtain ⟨given, hgiven, h⟩ := bind_eq_ok.1 h
    obtain ⟨lines, hlines, h⟩ := bind_eq_ok.1 h
    cases h
    exact ⟨⟨rfl, rfl, rfl⟩, ⟨u, mapError_eq_ok.1 hu, mapError_eq_ok.1 hbase⟩, headers, given,
      mapError_eq_ok.1 hheaders, mapError_eq_ok.1 hgiven, mapError_eq_ok.1 hlines⟩

/-- A client that was just made is one by which nothing was requested yet. -/
theorem unused_of_ofDestination {d : Destination} {s : Settings} {cookies : CookieRule}
    (h : Client.ofDestination d s cookies = .ok c) :
    Client.ofDestination d s c.cookies = .ok { c with seen := [] } := by
  obtain ⟨⟨_, hcookies, hseen⟩, _⟩ := parts_of_ofDestination h
  cases hcookies
  rw [h, ← hseen]

/-- The base of a client is that of the address of its destination. -/
theorem base_of_ofDestination {d : Destination} {s : Settings} {cookies : CookieRule}
    (h : Client.ofDestination d s cookies = .ok c) : ∃ u, d.uri = .ok u ∧ baseOf u = .ok c.base :=
  (parts_of_ofDestination h).2.1

/-- The base is the address with one slash at the end of its path and query. -/
theorem base_of_baseOf {base : Url} (hu : ServerAddress u) (h : baseOf u = .ok base) :
    ServerAddress base ∧ SameServer u base ∧
      base.rawPath.toList = withoutSlash u.rawPath.toList ++ ['/'] := by
  rw [baseOf] at h
  -- Either there is a slash at the end already, or one is put there by an update of the URL.
  split at h
  · rename_i hlast
    cases h
    refine ⟨hu, ⟨rfl, rfl, rfl⟩, ?_⟩
    obtain ⟨front, hfront⟩ := List.getLast?_eq_some_iff.1 hlast
    rw [hfront, withoutSlash_concat]
  · rename_i hlast
    have hsame : withoutSlash u.rawPath.toList = u.rawPath.toList := if_neg hlast
    -- With a slash at its end the path is as normal as before.
    have hraw := (hu.normal.isRawPath hu.host).extend isBelow_nil
    have htext : u.rawPath ++ "/" =
        String.ofList (withoutSlash u.rawPath.toList ++ ['/']) := by
      rw [← String.toList_inj, hsame]
      simp
    rw [htext] at h
    have hrevised := revised_of_update hu.normal hraw hu.scheme_ne h
    obtain ⟨hbase, hserver⟩ := hu.revised hrevised
    exact ⟨hbase, hserver, hrevised.rawPath⟩

/-- What is requested is read as a URL, and that decides where the request goes. -/
theorem target_of_request {method : String} {url payload : Value} {r : Request}
    (h : c.request method url payload = .ok r) :
    ∃ v, readUrl url = .ok v ∧ c.target v = .ok r.url := by
  obtain ⟨v, hv, h⟩ := bind_eq_ok.1 h
  obtain ⟨target, htarget, h⟩ := bind_eq_ok.1 h
  obtain ⟨_, _, h⟩ := bind_eq_ok.1 h
  refine ⟨v, hv, ?_⟩
  -- With a body or without one, the request goes to the target.
  split at h
  · obtain ⟨_, _, h⟩ := bind_eq_ok.1 h
    cases h
    exact htarget
  · obtain ⟨_, _, h⟩ := bind_eq_ok.1 h
    obtain ⟨_, _, h⟩ := bind_eq_ok.1 h
    cases h
    exact htarget

/-- A request for a path of plain segments extends the base by the path. -/
theorem url_of_request {p : SegmentPath} {method : String} {payload : Value} {r : Request}
    (h : c.request method (.text (String.ofList p.text)) payload = .ok r) :
    c.base.update { rawPath := some (String.ofList (c.base.rawPath.toList ++ p.below)) } =
      .ok r.url := by
  obtain ⟨v, hv, htarget⟩ := target_of_request h
  cases p.parse_text (mapError_eq_ok.1 hv)
  have hrelative : p.relative.isAbsolute = false := rfl
  -- The slashes in front of what is requested are dropped, and it has just one.
  have hdrop : p.text.dropWhile (· = '/') = p.below := by
    obtain ⟨first, rest, hbelow, hfirst⟩ := p.head_below
    rw [SegmentPath.text, hbelow, List.dropWhile_cons_of_pos (by decide),
      List.dropWhile_cons_of_neg (by simpa using hfirst)]
  have htext : c.base.rawPath ++ String.ofList p.below =
      String.ofList (c.base.rawPath.toList ++ p.below) := by
    rw [← String.toList_inj]
    simp
  rw [target, if_neg (by rw [hrelative]; exact Bool.false_ne_true), p.rawPath_relative,
    hdrop] at htarget
  dsimp only at htarget
  rw [htext] at htarget
  exact mapError_eq_ok.1 htarget

end Client

/-! ### The first request -/

/-- The first request that goes out has the URL that was requested. -/
theorem Exchange.first_of_send {σ : Type} {ask : Ask σ} {cookies : CookieRule}
    {providers : List Value} {follow : Bool} {request first : Request} {s : σ}
    {responses : List Response} {seen : Answered} {rest : List Request}
    (h : (send ask cookies providers follow request ⟨s, responses, seen, [], []⟩).1.sent =
      first :: rest) : first.url = request.url := by
  obtain ⟨given, _, rfl⟩ := first_eq_of_send h
  rw [Request.authorized]
  split <;> rfl

/-- A request for a path of plain segments goes to the server of the address of the destination,
where path and query of the address are followed by what was requested. That is the path of the
address followed by what was requested exactly if the address has no query. The client may have
been used before. -/
theorem Client.first_path_iff (d : Destination) (settings : Settings) (c : Client) (u : Url)
    (hu : d.uri = .ok u) (hscheme : u.scheme = "http" ∨ u.scheme = "https") (hhost : u.host ≠ "")
    (hc : Client.ofDestination d settings c.cookies = .ok { c with seen := [] }) (p : SegmentPath)
    (method : String) (payload : Value) (r : Request)
    (hr : c.request method (.text (String.ofList p.text)) payload = .ok r) {σ : Type}
    (ask : Ask σ) (follow : Bool) (s : σ) (responses : List Response) (first : Request)
    (rest : List Request)
    (hsent : (Exchange.send ask c.cookies c.destination.providers follow r
      ⟨s, responses, c.seen, [], []⟩).1.sent = first :: rest) :
    SameServer u first.url ∧
      first.url.rawPath.toList = withoutSlash u.rawPath.toList ++ p.text ∧
      (first.url.path.toList = withoutSlash u.path.toList ++ p.text ↔ u.query = none) := by
  obtain ⟨v, hv, hbase⟩ := base_of_ofDestination hc
  dsimp only at hbase
  cases hu.symm.trans hv
  have haddress := serverAddress_of_uri hu hscheme hhost
  -- The base is the address with a slash at its end.
  obtain ⟨hserver, hsame, hraw⟩ := base_of_baseOf haddress hbase
  have hurl := url_of_request hr
  have htext : c.base.rawPath.toList ++ p.below = withoutSlash u.rawPath.toList ++ p.text := by
    rw [hraw, List.append_assoc]
    rfl
  rw [htext] at hurl
  -- Extending the base keeps what it is the address of.
  have hrevised := revised_of_update hserver.normal
    ((haddress.normal.isRawPath hhost).extend p.isBelow) hserver.scheme_ne hurl
  obtain ⟨htarget, hsame'⟩ := hserver.revised hrevised
  rw [Exchange.first_of_send hsent]
  -- A path has at least one segment, so something stands below the slash.
  have hbelow : p.below ≠ [] := by
    obtain ⟨first, rest, hbelow, _⟩ := p.head_below
    rw [hbelow]
    exact List.cons_ne_nil _ _
  exact ⟨hsame.trans hsame', hrevised.rawPath, path_extended_iff haddress.normal hhost
    htarget.normal htarget.host p.isBelow hbelow hrevised.rawPath⟩

/-- A destination with an address and nothing else. -/
private def destinationAt (address : String) : Destination :=
  ⟨.ofEntries [(.text "URL", .text address)], [], [], none⟩

/-- Providers that give no headers. -/
def Ask.silent : Ask Unit := fun s _ _ => (s, .ok [])

/-- The URLs of the requests that go out when a path is requested from a destination. -/
private def sentTo (address path : String) : Option (List Url) := do
  let c ← (Client.ofDestination (destinationAt address) {}).toOption
  let r ← (c.request "GET" (.text path) .null).toOption
  let x := Exchange.send Ask.silent c.cookies c.destination.providers true r
    ⟨(), [], c.seen, [], []⟩
  return x.1.sent.map (·.url)

/-- Where one URL was sent to, the client was made, the request was, and its first round has that
URL. -/
private theorem exists_of_sentTo {address path : String} {url : Url}
    (h : sentTo address path = some [url]) :
    ∃ c r first, Client.ofDestination (destinationAt address) {} = .ok c ∧
      c.request "GET" (.text path) .null = .ok r ∧
      (Exchange.send Ask.silent c.cookies c.destination.providers true r
        ⟨(), [], c.seen, [], []⟩).1.sent = [first] ∧
      first.url = url := by
  obtain ⟨c, hc, h⟩ := Option.bind_eq_some_iff.1 h
  obtain ⟨r, hr, h⟩ := Option.bind_eq_some_iff.1 h
  obtain ⟨first, hfirst, hurl⟩ := List.map_eq_singleton_iff.1 (Option.some.inj h)
  exact ⟨c, r, first, toOption_eq_some.1 hc, toOption_eq_some.1 hr, hfirst, hurl⟩

/-- The path of two segments. -/
private def twoSegments : SegmentPath where
  segments := [['x'], ['y']]
  nonempty := by decide
  plain := by simp [IsDotSegment, isUnreserved]

/-- A path behind an address with a slash at its end, and in capital letters. -/
theorem Client.first_path_of_capitals :
    ∃ d u c r first, d.uri = .ok u ∧ u.port = some 80 ∧ Client.ofDestination d {} = .ok c ∧
      c.request "GET" (.text "/x/y") .null = .ok r ∧
      (Exchange.send Ask.silent c.cookies c.destination.providers true r
        ⟨(), [], c.seen, [], []⟩).1.sent = [first] ∧
      SameServer u first.url ∧
      first.url.path.toList = withoutSlash u.path.toList ++ "/x/y".toList := by
  -- Both are evaluated: what the address is read as, and where the request goes.
  have hu : (destinationAt "HTTP://Host:80/a/").uri.toOption =
      some ⟨"http", "", "host", some 80, "/a/", none, none⟩ := by decide +kernel
  have hsent : sentTo "HTTP://Host:80/a/" "/x/y" =
      some [⟨"http", "", "host", none, "/a/x/y", none, none⟩] := by decide +kernel
  obtain ⟨c, r, first, hc, hr, hfirst, _⟩ := exists_of_sentTo hsent
  have hu := toOption_eq_some.1 hu
  obtain ⟨hserver, _, hpath⟩ := first_path_iff _ {} c _ hu (.inl rfl) (by decide)
    (unused_of_ofDestination hc) twoSegments "GET" .null r hr Ask.silent true () [] first []
    hfirst
  exact ⟨_, _, c, r, first, hu, rfl, hc, hr, hfirst, hserver, hpath.2 rfl⟩

/-- Behind an address with a query, what is requested becomes part of the query. -/
theorem Client.not_first_path_of_query :
    ∃ d u c r first, d.uri = .ok u ∧ Client.ofDestination d {} = .ok c ∧
      c.request "GET" (.text "/x") .null = .ok r ∧
      (Exchange.send Ask.silent c.cookies c.destination.providers true r
        ⟨(), [], c.seen, [], []⟩).1.sent = [first] ∧
      first.url.path = "/a" ∧ first.url.query = some "q=1/x" ∧
      ¬first.url.path.toList = withoutSlash u.path.toList ++ "/x".toList := by
  have hu : (destinationAt "http://h/a?q=1").uri.toOption =
      some ⟨"http", "", "h", none, "/a", some "q=1", none⟩ := by decide +kernel
  have hsent : sentTo "http://h/a?q=1" "/x" =
      some [⟨"http", "", "h", none, "/a", some "q=1/x", none⟩] := by decide +kernel
  obtain ⟨c, r, first, hc, hr, hfirst, hurl⟩ := exists_of_sentTo hsent
  refine ⟨_, _, c, r, first, toOption_eq_some.1 hu, hc, hr, hfirst, ?_⟩
  rw [hurl]
  exact ⟨rfl, rfl, by decide⟩

end Egress
