import Egress.Proofs.Url.Normal

/-!
# URLs as they are written

A URL that is read has its components from the components of the text. A text with a scheme and two
slashes has an authority up to the first slash, question mark or hash sign; what stands in front of
these belongs to it.

## Key results

- `FromParts`, `fromParts_of_parse`: what each component of a URL is read from
- `ofText_schemed`: the components of a text with a scheme and an authority
- `ofText_schemed_append`: what belongs to the authority
-/

namespace Egress.Url

open Egress.Text

/-! ### Components that are read -/

/-- A URL whose components are read from written ones. -/
structure FromParts (u : Url) (w : Written) (a : WrittenAuthority) : Prop where
  scheme : u.scheme.toList = w.scheme.map Char.toLower
  userinfo : u.userinfo.toList = encode userinfoSafe a.userinfo
  host : normalHost a.host = .ok u.host.toList
  port : normalPort a.port w.scheme = .ok u.port
  -- Dot segments are resolved behind a scheme or an authority.
  path : w.scheme ≠ [] → u.path.toList = encode pathSafe (normalPath w.path)
  query : u.query = w.query.map fun q => String.ofList (encode querySafe q)
  fragment : u.fragment = w.fragment.map fun f => String.ofList (encode fragmentSafe f)

/-- A URL is read from the written components. -/
theorem fromParts_of_ofParts {w : Written} {a : WrittenAuthority} {u : Url}
    (h : ofParts w a = .ok u) : u.FromParts w a := by
  obtain ⟨host, hhost, h⟩ := bind_eq_ok.1 h
  obtain ⟨port, hport, h⟩ := bind_eq_ok.1 h
  obtain ⟨_, _, h⟩ := bind_eq_ok.1 h
  cases h
  constructor
  -- One case per component, in the order of the fields.
  · exact String.toList_ofList
  · exact String.toList_ofList
  · rw [hhost, String.toList_ofList]
  · exact hport
  · intro hscheme
    simp [hscheme]
  · rfl
  · rfl

/-- A URL is read from the components of its text. -/
theorem fromParts_of_parse {raw : String} {u : Url} (h : parse raw = .ok u) :
    u.FromParts (Written.ofText raw.toList)
      (WrittenAuthority.ofText (Written.ofText raw.toList).authority) := by
  rw [parse_eq, guarded_eq_ok] at h
  exact fromParts_of_ofParts h.2.2

/-! ### Cutting off an option -/

variable {sep : Char} {s : List Char}

/-- A text without a delimiter has nothing behind it. -/
theorem cutOption_of_not_mem (h : sep ∉ s) : cutOption sep s = (s, none) := by
  rw [cutOption]
  split
  · rename_i before after hcut
    rw [(eq_of_cut_eq_some hcut).1] at h
    exact absurd (by simp) h
  · rfl

/-- A text is cut at its first delimiter. -/
theorem cutOption_append (after : List Char) (h : sep ∉ s) :
    cutOption sep (s ++ sep :: after) = (s, some after) := by
  rw [cutOption, cut_append_cons after h]

/-- A text with a delimiter has something behind it. -/
theorem cutOption_ne_none (h : sep ∈ s) : (cutOption sep s).2 ≠ none := by
  obtain ⟨before, after, hs, hno⟩ := List.eq_append_cons_of_mem h
  rw [hs, cutOption_append after hno]
  exact Option.some_ne_none _

/-! ### Texts with a scheme and an authority -/

/-- The text of a scheme, two slashes, and what follows them. -/
def schemed (scheme rest : List Char) : List Char := scheme ++ ':' :: '/' :: '/' :: rest

/-- There is no colon in a scheme. -/
theorem colon_not_mem_of_isScheme {scheme : List Char} (h : isScheme scheme = true) :
    ':' ∉ scheme := by
  intro hmem
  rcases mem_of_isScheme h hmem with hc | hc
  · revert hc
    decide
  · revert hc
    decide

variable {scheme : List Char}

/-- A text without a colon has no scheme. -/
theorem cutScheme_of_not_mem {s : List Char} (h : ':' ∉ s) : cutScheme s = ([], s) := by
  rw [cutScheme]
  split
  · rename_i before after hcut
    rw [(eq_of_cut_eq_some hcut).1] at h
    exact absurd (by simp) h
  · rfl

/-- The scheme is cut off at its colon. -/
theorem cutScheme_append (h : isScheme scheme = true) (rest : List Char) :
    cutScheme (scheme ++ ':' :: rest) = (scheme, rest) := by
  have hcut : cut ':' (scheme ++ ':' :: rest) = some (scheme, rest) :=
    cut_append_cons rest (colon_not_mem_of_isScheme h)
  simp only [cutScheme, hcut, h, if_true]

/-- The components of a text with a scheme and an authority. -/
theorem ofText_schemed (h : isScheme scheme = true) (rest : List Char) :
    let behind := cutOption '#' (rest.dropWhile (!endsAuthority ·))
    Written.ofText (schemed scheme rest) =
      ⟨scheme, rest.takeWhile (!endsAuthority ·), (cutOption '?' behind.1).1,
        (cutOption '?' behind.1).2, behind.2⟩ := by
  simp only [schemed, Written.ofText, cutScheme_append h, cutAuthority]

/-- What stands in front of the end of the authority belongs to it. -/
theorem ofText_schemed_append (h : isScheme scheme = true) {front : List Char}
    (hfront : ∀ c ∈ front, endsAuthority c = false) (rest : List Char) :
    Written.ofText (schemed scheme (front ++ rest)) =
      { Written.ofText (schemed scheme rest) with
        authority := front ++ (Written.ofText (schemed scheme rest)).authority } := by
  -- What ends the authority is behind the front.
  have hpos : ∀ c ∈ front, (!endsAuthority c) = true := by
    intro c hc
    rw [hfront c hc]
    rfl
  simp only [ofText_schemed h, List.takeWhile_append_of_pos hpos,
    List.dropWhile_append_of_pos hpos]

end Egress.Url
