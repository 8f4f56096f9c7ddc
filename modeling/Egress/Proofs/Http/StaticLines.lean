import Egress.Proofs.Http.Target
import Egress.Proofs.Proxy.Transport

/-!
# The lines of static headers

The headers of the settings and of the destination go through several hands before a request goes
out: the defaults of a client are put in front of them, a request adds lines for its cookies, its
host and its body, and the credentials of the URL and the headers of the providers are put over
them. All but the last two add a line only for a name that has none, so that they leave the lines of
the static headers as they are, with their letter case, in their order and as often as they were
given.

## Key results

- `Completed`: lines with others beside them, for names without a line
- `completed_of_ofDestination`, `completed_of_request`: what a client and a request add
- `overlay_of_send`: what is put over the lines of a request before it goes out
- `static_lines`: the lines of the first request that goes out
-/

namespace Egress

open Egress.Http Egress.Http.Lines

/-! ### Lines beside others -/

namespace Http.Lines

variable {lines after more front : Lines} {line : Line} {name : List UInt8}

/-- Lines with others beside them: nothing was added for a name that had a line, and at most one
line for any other name. -/
def Completed (lines after : Lines) : Prop :=
  ∀ name, after.filter (isNamed name) = lines.filter (isNamed name) ∨
    lines.filter (isNamed name) = [] ∧ (after.filter (isNamed name)).length ≤ 1

theorem Completed.refl (lines : Lines) : Completed lines lines := fun _ => .inl rfl

theorem Completed.trans (h : Completed lines after) (h' : Completed after more) :
    Completed lines more := by
  intro name
  rcases h' name with hsame | ⟨hnone, hone⟩
  · rw [hsame]
    exact h name
  · rcases h name with hsame | ⟨hempty, _⟩
    · exact .inr ⟨hsame ▸ hnone, hone⟩
    · exact .inr ⟨hempty, hone⟩

/-- Nothing of a name is left where no line has it. -/
theorem filter_isNamed_eq_nil (h : lines.any (isNamed name) = false) :
    lines.filter (isNamed name) = [] := by
  rw [List.filter_eq_nil_iff]
  exact fun l hl hname => Bool.false_ne_true (h.symm.trans (List.any_eq_true.2 ⟨l, hl, hname⟩))

/-- Something of a name is left where a line has it. -/
theorem filter_isNamed_ne_nil (h : lines.any (isNamed name) = true) :
    lines.filter (isNamed name) ≠ [] := by
  obtain ⟨l, hl, hname⟩ := List.any_eq_true.1 h
  exact List.ne_nil_of_mem (List.mem_filter.2 ⟨hl, hname⟩)

/-- Among lines of distinct names there is at most one of each. -/
theorem length_filter_isNamed_le (h : lines.Pairwise fun l m => isNamed l.name m = false)
    (name : List UInt8) : (lines.filter (isNamed name)).length ≤ 1 := by
  -- By induction on the lines: behind a line of the name there is no other.
  induction h with
  | nil => exact Nat.zero_le 1
  | @cons l rest hl _ ih =>
    cases hname : isNamed name l with
    | false =>
      rw [List.filter_cons_of_neg (by simp [hname])]
      exact ih
    | true =>
      have hrest : rest.filter (isNamed name) = [] := by
        rw [List.filter_eq_nil_iff]
        intro m hm
        rw [← isNamed_congr hname, hl m hm]
        exact Bool.false_ne_true
      rw [List.filter_cons_of_pos hname, hrest]
      exact Nat.le_refl 1

/-- Lines of distinct new names may be put in front. -/
theorem completed_append (hdistinct : front.Pairwise fun l m => isNamed l.name m = false)
    (hnew : ∀ l ∈ front, lines.any (isNamed l.name) = false) :
    Completed lines (front ++ lines) := by
  intro name
  rw [List.filter_append]
  -- Of a name in front, there are no lines behind.
  cases hfront : front.filter (isNamed name) with
  | nil => exact .inl rfl
  | cons m rest =>
    obtain ⟨hm, hname⟩ := List.mem_filter.1 (hfront ▸ List.mem_cons_self : m ∈ front.filter _)
    have hnone : lines.filter (isNamed name) = [] := by
      rw [← funext (isNamed_congr hname)]
      exact filter_isNamed_eq_nil (hnew m hm)
    rw [hnone, List.append_nil, ← hfront]
    exact .inr ⟨rfl, length_filter_isNamed_le hdistinct name⟩

/-- A default comes behind the other lines, if at all. -/
theorem completed_orDefault (lines : Lines) (line : Line) :
    Completed lines (lines.orDefault line) := by
  rw [orDefault]
  split
  · exact .refl lines
  · rename_i hnew
    intro name
    -- The default is of this name or of another.
    cases hname : isNamed name line with
    | false =>
      rw [List.filter_append, List.filter_cons_of_neg (by simp [hname]), List.filter_nil,
        List.append_nil]
      exact .inl rfl
    | true =>
      have hnone : lines.filter (isNamed name) = [] := by
        rw [← funext (isNamed_congr hname)]
        exact filter_isNamed_eq_nil (Bool.eq_false_iff.2 hnew)
      rw [List.filter_append, hnone, List.filter_cons_of_pos hname]
      exact .inr ⟨rfl, Nat.le_refl 1⟩

/-- Lines that were completed and then had others put over them have the lines of a name as they
were, if none were put over them, and in any case only one if there was none. -/
theorem Completed.foldl_set (h : Completed lines after) (overlay : Lines) (name : List UInt8) :
    (lines.any (isNamed name) = true → overlay.any (isNamed name) = false →
      (overlay.foldl set after).filter (isNamed name) = lines.filter (isNamed name)) ∧
    (lines.any (isNamed name) = false →
      ((overlay.foldl set after).filter (isNamed name)).length ≤ 1) := by
  -- The two cases of the name: there was a line of it, or there was none.
  constructor
  · intro hsome hoverlay
    rw [filter_foldl_set, filter_isNamed_eq_nil hoverlay]
    exact (h name).resolve_right fun hnone => filter_isNamed_ne_nil hsome hnone.1
  · intro hnone
    have hafter : (after.filter (isNamed name)).length ≤ 1 := by
      rcases h name with hsame | ⟨_, hone⟩
      · rw [hsame, filter_isNamed_eq_nil hnone]
        exact Nat.zero_le 1
      · exact hone
    rw [filter_foldl_set]
    cases (overlay.filter (isNamed name)).getLast? with
    | none => exact hafter
    | some final => exact Nat.le_refl 1

end Http.Lines

/-! ### What clients and requests add -/

/-- The defaults of a client come in front of the lines that are given. -/
theorem completed_of_mergeLines {given lines : Lines}
    (h : mergeLines Client.defaultLines given = .ok lines) : Completed given lines := by
  obtain ⟨_, _, h⟩ := bind_eq_ok.1 h
  cases h
  have hdistinct : Client.defaultLines.Pairwise fun l m => isNamed l.name m = false := by decide
  refine completed_append (hdistinct.filter _) fun l hl => ?_
  simpa using (List.mem_filter.1 hl).2

/-- The line for the host is new. -/
theorem new_of_hostLine {url : Url} {lines host : Lines}
    (h : Request.hostLine url lines = .ok host) :
    host.Sublist [.ofAscii "Host" url.netloc] ∧
      ∀ l ∈ host, lines.any (isNamed l.name) = false := by
  unfold Request.hostLine at h
  split at h
  · cases h
    exact ⟨List.nil_sublist _, nofun⟩
  · rename_i hnew
    split at h
    · cases h
    · cases h
      split
      · exact ⟨List.nil_sublist _, nofun⟩
      -- The line is added only if there is none for a host.
      · refine ⟨.refl _, fun l hl => ?_⟩
        rw [List.mem_singleton.1 hl]
        exact Bool.eq_false_iff.2 hnew

/-- A request adds a line for its host and one for the length of its body, unless there is one. -/
theorem completed_of_complete {method : String} {url : Url} {lines after : Lines}
    (h : Request.complete method url lines = .ok after) : Completed lines after := by
  obtain ⟨host, hhost, h⟩ := bind_eq_ok.1 h
  cases h
  obtain ⟨hsublist, hnew⟩ := new_of_hostLine hhost
  -- The two names are different, so the lines do not get in each other's way.
  have hdistinct : [Line.ofAscii "Host" url.netloc, .ofAscii "Content-Length" "0"].Pairwise
      fun l m => isNamed l.name m = false := by
    refine .cons (fun l hl => ?_) (List.pairwise_singleton _ _)
    rw [List.mem_singleton.1 hl]
    exact (by decide : isNamed (ascii "Host") (.ofAscii "Content-Length" "0") = false)
  split
  · rename_i habsent
    refine completed_append (hdistinct.sublist (hsublist.append (.refl _))) fun l hl => ?_
    rcases List.mem_append.1 hl with hl | hl
    · exact hnew l hl
    · rw [List.mem_singleton.1 hl]
      have hlength : lines.has "Content-Length" = false := by simpa using habsent.2.1
      exact hlength
  · rw [List.append_nil]
    exact completed_append (hdistinct.sublist (hsublist.trans (List.sublist_append_left _ _))) hnew

namespace Client

variable {c : Client}

/-- The lines of a client are the defaults and the lines of the headers that are given. -/
theorem completed_of_ofDestination {d : Destination} {s : Settings} {cookies : CookieRule}
    (h : Client.ofDestination d s cookies = .ok c) :
    ∃ headers given, givenHeaders d s = .ok headers ∧
      headers.mapM (fun h => Line.ofValues h.1 h.2) = .ok given ∧ Completed given c.lines := by
  obtain ⟨_, _, headers, given, hheaders, hgiven, hlines⟩ := parts_of_ofDestination h
  exact ⟨headers, given, hheaders, hgiven, completed_of_mergeLines hlines⟩

/-- A request gets a line for its cookies, unless it has one. -/
theorem completed_of_withCookies {r next : Request} {store : Request → Kept}
    (h : r.withCookies store = .ok next) : Completed r.lines next.lines := by
  rw [Request.withCookies] at h
  split at h
  · cases h
    exact .refl _
  · rename_i text _
    obtain ⟨_, _, h⟩ := bind_eq_ok.1 h
    cases text with
    | none =>
      cases h
      exact .refl _
    | some text =>
      -- Not even then, if the request has a line of its own.
      dsimp only at h
      split at h
      · cases h
        exact .refl _
      · rename_i hnew
        obtain ⟨value, _, h⟩ := bind_eq_ok.1 h
        cases h
        have hline : r.lines ++ [⟨ascii "Cookie", value⟩] =
            r.lines.orDefault ⟨ascii "Cookie", value⟩ := (if_neg hnew).symm
        rw [hline]
        exact completed_orDefault _ _

/-- The lines of a request are those of the client, with lines for the cookies, the host and the
body. Their encoding is not found out yet. -/
theorem completed_of_request {method : String} {url payload : Value} {r : Request}
    (h : c.request method url payload = .ok r) : Completed c.lines r.lines ∧ r.encoding = none := by
  obtain ⟨_, _, h⟩ := bind_eq_ok.1 h
  obtain ⟨_, _, h⟩ := bind_eq_ok.1 h
  obtain ⟨start, hstart, h⟩ := bind_eq_ok.1 h
  have hcookies := completed_of_withCookies hstart
  -- Without a body, the request is completed at once; with one, two defaults come first.
  split at h
  · obtain ⟨_, hlines, h⟩ := bind_eq_ok.1 h
    cases h
    exact ⟨hcookies.trans (completed_of_complete hlines), rfl⟩
  · obtain ⟨_, _, h⟩ := bind_eq_ok.1 h
    obtain ⟨_, hlines, h⟩ := bind_eq_ok.1 h
    cases h
    have hbody := ((completed_orDefault start.lines _).trans (completed_orDefault _ _)).trans
      (completed_of_complete hlines)
    exact ⟨hcookies.trans hbody, rfl⟩

end Client

/-! ### What is put over them -/

/-- A provider that was called returns a header of a name. -/
def Call.Returns (c : Call) (name : List UInt8) : Prop :=
  ∃ headers h l, c.answer = .ok headers ∧ h ∈ headers ∧ Writes .utf8 h l ∧ isNamed name l = true

/-- Each line that calls have given was returned. -/
theorem exists_returns {calls : List Call} {given : Lines} (h : linesOf .utf8 calls = .ok given)
    {l : Line} (hl : l ∈ given) : ∃ c ∈ calls, c.Returns l.name := by
  obtain ⟨answers, hanswers, rfl⟩ := map_eq_ok.1 h
  obtain ⟨answer, hanswer, hl⟩ := List.mem_flatten.1 hl
  obtain ⟨c, hc, hlines⟩ := exists_of_mem_mapM hanswers hanswer
  obtain ⟨headers, hheaders, hlines⟩ := bind_eq_ok.1 hlines
  obtain ⟨header, hheader, hline⟩ := exists_of_mem_mapM (mapError_eq_ok.1 hlines) hl
  exact ⟨c, hc, headers, header, l, hheaders, hheader, headerLine_eq_ok.1 hline, isNamed_self l⟩

/-- Credentials leave the encoding of the body as it is. -/
theorem encoding_authorized (r : Request) : r.authorized.encoding = r.encoding := by
  rw [Request.authorized]
  split <;> rfl

/-- The credentials of the URL are put over the other lines, if there are any. -/
theorem lines_authorized (r : Request) :
    ∃ overlay : Lines, r.authorized.lines = overlay.foldl set r.lines ∧
      (∀ l ∈ overlay, isNamed (ascii "Authorization") l = true) ∧
      (r.url.userinfo = "" → overlay = []) := by
  unfold Request.authorized
  split
  · exact ⟨[], rfl, nofun, fun _ => rfl⟩
  · rename_i hcredentials
    refine ⟨[_], rfl, fun l hl => ?_, fun hnone => ?_⟩
    · rw [List.mem_singleton.1 hl]
      exact isNamed_iff.2 rfl
    -- Without user information there are no credentials.
    · exact absurd (ProxyConfiguration.credentials_of_userinfo_empty hnone) hcredentials

/-- What is put over the lines of a request before it goes out: the credentials of its URL, and what
the providers return. -/
theorem Exchange.overlay_of_send {σ : Type} {ask : Ask σ} {cookies : CookieRule}
    {providers : List Value} {follow : Bool} {request first : Request} {s : σ}
    {responses : List Response} {seen : Answered} {rest : List Request}
    (hencoding : request.encoding = none) (h : (send ask cookies providers follow request
      ⟨s, responses, seen, [], []⟩).1.sent = first :: rest) :
    ∃ overlay : Lines, first.lines = overlay.foldl set request.lines ∧ ∀ l ∈ overlay,
      isNamed (ascii "Authorization") l = true ∧ request.url.userinfo ≠ "" ∨
        ∃ c ∈ firstCalls ask s request providers, c.Returns l.name := by
  obtain ⟨given, hgiven, rfl⟩ := first_eq_of_send h
  -- The encoding of a new request is not found out yet, so providers write in UTF-8.
  have hutf8 : request.authorized.setEncoding = .utf8 := by
    rw [Request.setEncoding, encoding_authorized, hencoding]
    rfl
  rw [hutf8] at hgiven
  obtain ⟨credentials, hlines, hname, hnone⟩ := lines_authorized request
  refine ⟨credentials ++ given, by rw [hlines, List.foldl_append], fun l hl => ?_⟩
  -- What is put over is a line for the credentials or of a provider.
  rcases List.mem_append.1 hl with hl | hl
  · refine .inl ⟨hname l hl, fun hempty => ?_⟩
    rw [hnone hempty] at hl
    cases hl
  · exact .inr (exists_returns hgiven hl)

/-! ### The first request -/

/-- The lines of the first request that goes out, for headers of the settings and of the
destination. The lines of a name that is among them are those that were given, exactly as they were
given, unless a provider returns the name, or the URL has user information and the name is that of
the authorization. Any other name has at most one line. That is so whatever cookies are kept. -/
theorem Client.static_lines (d : Destination) (settings : Settings) (c : Client)
    (hc : Client.ofDestination d settings c.cookies = .ok { c with seen := [] }) (method : String)
    (url payload : Value) (r : Request) (hr : c.request method url payload = .ok r) {σ : Type}
    (ask : Ask σ) (follow : Bool) (s : σ) (responses : List Response) (first : Request)
    (rest : List Request) (hsent : (Exchange.send ask c.cookies c.destination.providers follow r
      ⟨s, responses, c.seen, [], []⟩).1.sent = first :: rest) :
    ∃ headers given, givenHeaders d settings = .ok headers ∧
      headers.mapM (fun h => Line.ofValues h.1 h.2) = .ok given ∧ ∀ name,
        (given.any (isNamed name) = true →
          (∀ call ∈ Exchange.firstCalls ask s r c.destination.providers, ¬call.Returns name) →
          (r.url.userinfo = "" ∨ foldName name ≠ foldName (ascii "Authorization")) →
          first.lines.filter (isNamed name) = given.filter (isNamed name)) ∧
        (given.any (isNamed name) = false → (first.lines.filter (isNamed name)).length ≤ 1) := by
  obtain ⟨headers, given, hheaders, hgiven, hclient⟩ := completed_of_ofDestination hc
  obtain ⟨hrequest, hencoding⟩ := completed_of_request hr
  obtain ⟨overlay, hlines, hoverlay⟩ := Exchange.overlay_of_send hencoding hsent
  refine ⟨headers, given, hheaders, hgiven, fun name => ?_⟩
  rw [hlines]
  obtain ⟨hkept, hone⟩ := (hclient.trans hrequest).foldl_set overlay name
  refine ⟨fun hsome hnot hexcept => hkept hsome ?_, hone⟩
  -- If something were put over the lines of this name, it would be one of the two exceptions.
  rw [← Bool.not_eq_true, List.any_eq_true]
  rintro ⟨l, hl, hname⟩
  rcases hoverlay l hl with ⟨hauthorization, huserinfo⟩ | ⟨call, hcall, hreturns⟩
  · refine hexcept.elim huserinfo fun hother => hother ?_
    rw [← isNamed_iff.1 hname, isNamed_iff.1 hauthorization]
  · obtain ⟨answer, h, m, hanswer, hmem, hline, hm⟩ := hreturns
    exact hnot call hcall ⟨answer, h, m, hanswer, hmem, hline, by rwa [← isNamed_congr hname]⟩

/-- A destination with two headers of one name, and one in the place of a default. -/
private def headedDestination : Destination :=
  ⟨.ofEntries [(.text "URL", .text "http://h")], [.header (.text "x") (.text "1"),
    .header (.text "ACCEPT") (.text "text/html"), .header (.text "X") (.text "2")], [.null], none⟩

/-- Settings with a header of the same name. -/
private def headedSettings : Settings :=
  { extraHeaders := .map .mutable [(.text "X", .text "0")] }

/-- A provider that gives one header. -/
private def tracing : Ask Unit := fun s _ _ => (s, .ok [.header (.text "Trace") (.text "t")])

/-- How many requests go out. -/
private def sentByHeaded : Option Nat := do
  let c ← (Client.ofDestination headedDestination headedSettings).toOption
  let r ← (c.request "POST" (.text "/p") (.map .mutable [])).toOption
  let x := Exchange.send tracing c.cookies c.destination.providers true r ⟨(), [], c.seen, [], []⟩
  return x.1.sent.length

/-- Headers of one name in the settings and in the destination, in different letter case. -/
theorem Client.static_lines_letter_case :
    ∃ c r first, Client.ofDestination headedDestination headedSettings = .ok c ∧
      c.request "POST" (.text "/p") (.map .mutable []) = .ok r ∧
      (Exchange.send tracing c.cookies c.destination.providers true r
        ⟨(), [], c.seen, [], []⟩).1.sent = [first] ∧
      first.lines.filter (isNamed (ascii "x")) =
        [.ofAscii "X" "0", .ofAscii "x" "1", .ofAscii "X" "2"] ∧
      first.lines.filter (isNamed (ascii "accept")) = [.ofAscii "ACCEPT" "text/html"] ∧
      (first.lines.filter (isNamed (ascii "host"))).length ≤ 1 := by
  have hlength : sentByHeaded = some 1 := by decide +kernel
  obtain ⟨c, hc, hlength⟩ := Option.bind_eq_some_iff.1 hlength
  obtain ⟨r, hr, hlength⟩ := Option.bind_eq_some_iff.1 hlength
  obtain ⟨first, hsent⟩ := List.length_eq_one_iff.1 (Option.some.inj hlength)
  have hc := toOption_eq_some.1 hc
  obtain ⟨headers, given, hheaders, hgiven, hfirst⟩ :=
    Client.static_lines _ _ c (unused_of_ofDestination hc) _ _ _ r (toOption_eq_some.1 hr) tracing
      true () [] first [] hsent
  cases hheaders
  -- What the settings and the destination give, as lines.
  have hlines : given = [.ofAscii "X" "0", .ofAscii "x" "1", .ofAscii "ACCEPT" "text/html",
      .ofAscii "X" "2"] := by
    refine Except.ok.inj (hgiven.symm.trans ?_)
    decide +kernel
  -- The one provider gives a header of another name.
  have hcalls : Exchange.firstCalls tracing () r c.destination.providers =
      [⟨.null, r.authorized.url, .ok [.header (.text "Trace") (.text "t")]⟩] := by
    rw [(parts_of_ofDestination hc).1.1]
    simp only [headedDestination, Exchange.firstCalls, Exchange.setHeaders, Ask.noting, tracing]
    split <;> rfl
  have hnot {name : List UInt8} (hname : isNamed name (.ofAscii "Trace" "t") = false) :
      ∀ call ∈ Exchange.firstCalls tracing () r c.destination.providers, ¬call.Returns name := by
    rw [hcalls]
    rintro call hcall ⟨answer, h, l, hanswer, hmem, hline, hl⟩
    cases List.mem_singleton.1 hcall
    cases hanswer
    cases List.mem_singleton.1 hmem
    cases headerLine_eq_ok.2 hline
    exact Bool.false_ne_true (hname.symm.trans hl)
  subst hlines
  refine ⟨c, r, first, hc, toOption_eq_some.1 hr, hsent, ?_, ?_, (hfirst _).2 (by decide)⟩
  · rw [(hfirst _).1 (by decide) (hnot (by decide)) (.inr (by decide))]
    decide
  · rw [(hfirst _).1 (by decide) (hnot (by decide)) (.inr (by decide))]
    decide

end Egress
