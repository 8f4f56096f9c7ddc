import Egress.Proofs.Url.Stripping
import Egress.Proofs.Url.Written

/-!
# URLs whose path is extended

Path and query of a URL are kept as one text when the URL is extended: what is added comes at the
end of that text, so it belongs to the query where there is one. A text that is extended by segments
without delimiters is a path, or a path and a query, in normal form again, and a URL that is given
such a text keeps it.

## Key results

- `withoutSlash`, `IsRawPath`: texts without a slash at the end, and the paths and queries of URLs
- `IsRawPath.extend`: extending a text keeps its normal form
- `Revised`, `revised_of_update`: what becomes of a URL with another path and query
- `path_extended_iff`: the path is extended exactly where there is no query
-/

namespace Egress.Url

open Egress.Text Egress.Host

/-! ### Texts without a slash at the end -/

/-- A text without the slash at its end, if there is one. -/
def withoutSlash (s : List Char) : List Char := if s.getLast? = some '/' then s.dropLast else s

/-- A slash at the end is dropped. -/
theorem withoutSlash_concat (s : List Char) : withoutSlash (s ++ ['/']) = s := by
  rw [withoutSlash, if_pos List.getLast?_concat, List.dropLast_concat]

/-- The slash at the end of a text belongs to what follows any other character. -/
theorem withoutSlash_append_cons (a b : List Char) {c : Char} (hc : c ≠ '/') :
    withoutSlash (a ++ c :: b) = a ++ c :: withoutSlash b := by
  -- Either nothing follows the character, and it is no slash, or the end is the same.
  rcases List.eq_nil_or_concat b with rfl | ⟨front, last, rfl⟩
  · rw [withoutSlash, if_neg]
    · rfl
    · rw [List.getLast?_concat, Option.some.injEq]
      exact hc
  · have hsplit : a ++ c :: (front ++ [last]) = (a ++ c :: front) ++ [last] := by simp
    rw [List.concat_eq_append, hsplit, withoutSlash, withoutSlash, List.getLast?_concat,
      List.getLast?_concat]
    split
    · rw [List.dropLast_concat, List.dropLast_concat]
    · rw [List.append_assoc, List.cons_append]

/-- What is missing without the slash is the slash. -/
theorem withoutSlash_cases (s : List Char) :
    s = withoutSlash s ∨ s = withoutSlash s ++ ['/'] := by
  rw [withoutSlash]
  split
  · rename_i hlast
    obtain ⟨front, rfl⟩ := List.getLast?_eq_some_iff.1 hlast
    exact .inr (by rw [List.dropLast_concat])
  · exact .inl rfl

/-- There are no other characters in a text without its slash. -/
theorem mem_of_mem_withoutSlash {s : List Char} {c : Char} (h : c ∈ withoutSlash s) : c ∈ s := by
  rw [withoutSlash] at h
  split at h
  · exact List.dropLast_subset s h
  · exact h

/-! ### Paths and queries -/

/-- A path in normal form behind a host, which is not empty. -/
structure IsPath (p : List Char) : Prop where
  nonempty : p ≠ []
  resolved : IsResolved p
  safe : ∀ c ∈ p, pathSafe c = true

/-- A path, or a path and a query, in normal form. -/
inductive IsRawPath : List Char → Prop where
  | path {p : List Char} (isPath : IsPath p) : IsRawPath p
  | query {p q : List Char} (isPath : IsPath p) (safe : ∀ c ∈ q, querySafe c = true) :
    IsRawPath (p ++ '?' :: q)

/-- What stands before and after a slash is resolved by itself. -/
theorem isResolved_append_slash {a b : List Char} :
    IsResolved (a ++ '/' :: b) ↔ IsResolved a ∧ IsResolved b := by
  have hsplit : splitBy (· = '/') (a ++ '/' :: b) = splitBy (· = '/') a ++ splitBy (· = '/') b :=
    splitBy_append_cons rfl a b
  rw [IsResolved, hsplit, List.forall_mem_append]
  rfl

theorem isResolved_nil : IsResolved [] := by
  intro segment hs
  cases List.mem_singleton.1 hs
  rintro (h | h) <;> cases h

/-- There is no question mark in a path. -/
theorem IsPath.no_mark {p : List Char} (h : IsPath p) : '?' ∉ p :=
  fun hc => (pathSafe_no_delimiter (h.safe _ hc)).1 rfl

/-- A text that may follow the last slash of a path, and of a query. -/
structure IsBelow (t : List Char) : Prop where
  resolved : IsResolved t
  safe : ∀ c ∈ t, pathSafe c = true ∧ querySafe c = true

theorem isBelow_nil : IsBelow [] := ⟨isResolved_nil, nofun⟩

/-- A path is extended to a path. -/
theorem IsPath.extend {p t : List Char} (hp : IsPath p) (ht : IsBelow t) :
    IsPath (withoutSlash p ++ '/' :: t) := by
  refine ⟨by simp, isResolved_append_slash.2 ⟨?_, ht.resolved⟩, fun c hc => ?_⟩
  -- Dropping the slash at the end leaves the path resolved, whether there was one or not.
  · rcases withoutSlash_cases p with h | h
    · rw [← h]
      exact hp.resolved
    · have hresolved := hp.resolved
      rw [h] at hresolved
      exact (isResolved_append_slash.1 hresolved).1
  · rcases List.mem_append.1 hc with hc | hc
    · exact hp.safe c (mem_of_mem_withoutSlash hc)
    · rcases List.mem_cons.1 hc with rfl | hc
      · decide
      · exact (ht.safe c hc).1

/-- A path, or a path and a query, is extended to such a text. -/
theorem IsRawPath.extend {r t : List Char} (hr : IsRawPath r) (ht : IsBelow t) :
    IsRawPath (withoutSlash r ++ '/' :: t) := by
  cases hr with
  | path hp => exact .path (hp.extend ht)
  | @query p q hp hq =>
    -- The slash at the end is that of the query, and the path before it stays.
    rw [withoutSlash_append_cons p q (by decide), List.append_assoc, List.cons_append]
    refine .query hp fun c hc => ?_
    rcases List.mem_append.1 hc with hc | hc
    · exact hq c (mem_of_mem_withoutSlash hc)
    · rcases List.mem_cons.1 hc with rfl | hc
      · decide
      · exact (ht.safe c hc).2

/-! ### The path and query of a URL -/

variable {u v : Url}

/-- Path and query of a URL, character by character. -/
theorem toList_rawPath (u : Url) :
    u.rawPath.toList = u.pathOrSlash.toList ++ u.query.elim [] fun q => '?' :: q.toList := by
  rw [rawPath, String.toList_append]
  cases u.query with
  | none => rfl
  | some q => simp

/-- The path of a URL with a host. -/
theorem Normal.isPath (hn : u.Normal) (hhost : u.host ≠ "") : IsPath u.pathOrSlash.toList := by
  rw [pathOrSlash]
  split
  · refine ⟨by decide, isResolved_append_slash.2 ⟨isResolved_nil, isResolved_nil⟩, ?_⟩
    exact List.all_eq_true.1 (by decide)
  · rename_i hne
    refine ⟨by simpa using hne, ?_, hn.path⟩
    rw [← hn.resolved hhost]
    exact isResolved_normalPath _

/-- The path and query of a URL in normal form that has a host are a path and query that are
sent. -/
theorem Normal.isRawPath (hn : u.Normal) (hhost : u.host ≠ "") : IsRawPath u.rawPath.toList := by
  rw [toList_rawPath]
  cases hq : u.query with
  | none =>
    rw [Option.elim_none, List.append_nil]
    exact .path (hn.isPath hhost)
  | some q => exact .query (hn.isPath hhost) (hn.query q hq)

/-! ### Another path and query -/

/-- A URL that was given another path and query. Its host is in lower case, and its port is left out
where it is the usual one. -/
structure Revised (u v : Url) (rawPath : List Char) : Prop where
  normal : v.Normal
  scheme : v.scheme = u.scheme
  host : v.host.toList = lowered u.host.toList
  port : v.port = if usualPort? u.scheme = u.port then none else u.port
  rawPath : v.rawPath.toList = rawPath

/-- How path and query in normal form are told apart, and that encoding leaves them alone. -/
theorem IsRawPath.parts {r : List Char} (h : IsRawPath r) :
    IsPath (cutOption '?' r).1 ∧ (∀ q, (cutOption '?' r).2 = some q → ∀ c ∈ q, querySafe c = true) ∧
      r = (cutOption '?' r).1 ++ (cutOption '?' r).2.elim [] ('?' :: ·) := by
  cases h with
  | path hp =>
    -- Without a question mark all of it is the path; with one, the first ends the path.
    rw [cutOption_of_not_mem hp.no_mark]
    exact ⟨hp, nofun, (List.append_nil r).symm⟩
  | @query p q hp hq =>
    rw [cutOption_append q hp.no_mark]
    refine ⟨hp, ?_, rfl⟩
    rintro _ ⟨⟩
    exact hq

/-- A path and query in normal form are kept. -/
theorem revised_of_update {r : List Char} (hn : u.Normal) (hr : IsRawPath r)
    (hscheme : u.scheme ≠ "")
    (h : u.update { rawPath := some (String.ofList r) } = .ok v) : Revised u v r := by
  obtain ⟨_, _, h⟩ := bind_eq_ok.1 h
  -- The new text is cut at its first question mark; the other components are those of the URL.
  have hparts : ofParts ⟨u.scheme.toList, u.authority.toList, (cutOption '?' r).1,
      (cutOption '?' r).2, u.fragment.map String.toList⟩
      ⟨u.userinfo.toList, bracketed u.host.toList, portText u.port⟩ = .ok v := by
    rw [← ofText_authority hn, ← String.toList_ofList (l := r)]
    exact h
  obtain ⟨hpath, hquery, hsplit⟩ := hr.parts
  have hfrom := fromParts_of_ofParts hparts
  -- Path and query are their own normal forms, so reading them gives them back.
  have hpathText : v.path.toList = (cutOption '?' r).1 := by
    rw [hfrom.path (by simpa using hscheme), normalPath_of_forall hpath.resolved,
      encode_of_all hpath.safe]
  have hqueryText : v.query.map String.toList = (cutOption '?' r).2 := by
    rw [hfrom.query]
    cases hq : (cutOption '?' r).2 with
    | none => rfl
    | some q => simp [encode_of_all (hquery q hq)]
  constructor
  · refine normal_ofParts hn.scheme (fun c hc => ?_) hparts
    exact isHostCharacter_of_mem_bracketed hn.host hc
  · rw [← String.toList_inj, hfrom.scheme]
    exact hn.lowerScheme
  · have hhost := hfrom.host
    -- The host is in normal form, and so is the port.
    rw [normalHost_bracketed hn.host] at hhost
    exact (Except.ok.inj (guard_eq_ok.1 hhost).2).symm
  · have hport := hfrom.port
    rw [normalPort_portText hn.port] at hport
    exact (Except.ok.inj hport).symm
  -- The path is not empty, so no slash stands in for it.
  · have hslash : v.pathOrSlash = v.path := by
      rw [pathOrSlash, if_neg]
      intro hempty
      rw [hempty] at hpathText
      exact hpath.nonempty hpathText.symm
    have helim : (v.query.elim [] fun q => '?' :: q.toList) =
        (v.query.map String.toList).elim [] ('?' :: ·) := by cases v.query <;> rfl
    rw [toList_rawPath, hslash, hpathText, helim, hqueryText]
    exact hsplit.symm

/-! ### The path of an extended URL -/

/-- Path and query are told apart at the question mark. -/
theorem cutOption_rawPath (hn : u.Normal) (hhost : u.host ≠ "") :
    cutOption '?' u.rawPath.toList = (u.pathOrSlash.toList, u.query.map String.toList) := by
  have hno := (hn.isPath hhost).no_mark
  rw [toList_rawPath]
  cases u.query with
  | none =>
    rw [Option.elim_none, List.append_nil]
    exact cutOption_of_not_mem hno
  | some q => exact cutOption_append q.toList hno

/-- A path that is empty is as good as a slash. -/
private theorem withoutSlash_pathOrSlash (u : Url) :
    withoutSlash u.pathOrSlash.toList = withoutSlash u.path.toList := by
  rw [pathOrSlash]
  split
  · rename_i hempty
    rw [hempty]
    decide
  · rfl

/-- A path of more than a slash stands as it is. -/
private theorem path_of_pathOrSlash {p t : List Char} (ht : t ≠ [])
    (h : u.pathOrSlash.toList = p ++ '/' :: t) : u.path.toList = p ++ '/' :: t := by
  rw [pathOrSlash] at h
  split at h
  · have hlength := congrArg List.length h
    have hpos := List.length_pos_iff.2 ht
    simp only [List.length_append, List.length_cons] at hlength
    have hslash : "/".toList.length = 1 := by decide
    omega
  · exact h

/-- A URL whose path and query are extended has the extended path exactly if there is no query. -/
theorem path_extended_iff {t : List Char} (hu : u.Normal) (huhost : u.host ≠ "") (hv : v.Normal)
    (hvhost : v.host ≠ "") (hbelow : IsBelow t) (ht : t ≠ [])
    (h : v.rawPath.toList = withoutSlash u.rawPath.toList ++ '/' :: t) :
    v.path.toList = withoutSlash u.path.toList ++ '/' :: t ↔ u.query = none := by
  have hpath := hu.isPath huhost
  have hcut := cutOption_rawPath hv hvhost
  rw [h, toList_rawPath] at hcut
  cases hq : u.query with
  | none =>
    rw [hq, Option.elim_none, List.append_nil,
      cutOption_of_not_mem (hpath.extend hbelow).no_mark] at hcut
    refine iff_of_true (path_of_pathOrSlash ht ?_) rfl
    rw [← withoutSlash_pathOrSlash]
    exact (congrArg Prod.fst hcut).symm
  | some q =>
    rw [hq, Option.elim_some, withoutSlash_append_cons _ _ (by decide), List.append_assoc,
      List.cons_append, cutOption_append _ hpath.no_mark] at hcut
    have hsame : u.pathOrSlash.toList = v.pathOrSlash.toList := congrArg Prod.fst hcut
    refine iff_of_false (fun hextended => ?_) nofun
    -- the path is the one from before, which is shorter
    have hv : v.pathOrSlash.toList = v.path.toList := by
      rw [pathOrSlash, if_neg]
      intro hempty
      rw [hempty] at hextended
      simp at hextended
    have hlong := congrArg List.length (hsame.trans (hv.trans hextended))
    have hpos := List.length_pos_iff.2 ht
    rw [← withoutSlash_pathOrSlash, List.length_append, List.length_cons] at hlong
    rcases withoutSlash_cases u.pathOrSlash.toList with hwhole | hwhole
    · rw [← hwhole] at hlong
      omega
    · have hone := congrArg List.length hwhole
      rw [List.length_append, List.length_singleton] at hone
      omega

end Egress.Url
