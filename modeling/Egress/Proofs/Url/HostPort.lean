import Mathlib.Data.List.TakeWhile
import Egress.Http.Redirect
import Egress.Proofs.Url.Stripping
import Egress.Proofs.Url.Written

/-!
# URLs that are put together from a host and a port

The text `http://host:port` is read with that host and that port where the host has no delimiter in
it. A slash, a question mark or a hash sign ends the authority, so that the port becomes part of
what follows it; an at sign makes user information of what stands before it. A colon outside of
brackets leads to a port that cannot be read.

## Key results

- `hostPortText`, `hostDelimiters`: the text, and the characters that end a host in it
- `AtRoot`: the URLs that lead to nothing below a host
- `atRoot_iff`: only the delimiters that end an authority lead below the host
- `fromParts_of_hostPort`, `fromParts_of_userHostPort`: what is read without them
- `effectivePort_of_fromParts`: a port that is written is the one that is reached
-/

namespace Egress.Url

open Egress.Text

/-- The text of an http URL with a host and a port. -/
def hostPortText (host : List Char) (port : Int) : List Char :=
  schemed "http".toList (host ++ portSuffix (some port))

/-- The characters that end a host, or stand in front of another one. -/
def hostDelimiters : List Char := "/?#@".toList

/-- A character that is no delimiter neither ends an authority nor is an at sign. -/
theorem not_mem_hostDelimiters {c : Char} :
    c ∉ hostDelimiters ↔ endsAuthority c = false ∧ c ≠ '@' := by
  have hall : hostDelimiters = ['/', '?', '#', '@'] := by decide
  rw [hall]
  simp [endsAuthority, and_assoc]

/-- A text without delimiters neither ends the authority nor has an at sign. -/
theorem no_delimiter_iff {s : List Char} :
    (∀ c ∈ s, c ∉ hostDelimiters) ↔ (∀ c ∈ s, endsAuthority c = false) ∧ '@' ∉ s := by
  constructor
  · intro h
    refine ⟨fun c hc => (not_mem_hostDelimiters.1 (h c hc)).1, fun hat => ?_⟩
    exact (not_mem_hostDelimiters.1 (h _ hat)).2 rfl
  · rintro ⟨hends, hat⟩ c hc
    refine not_mem_hostDelimiters.2 ⟨hends c hc, ?_⟩
    rintro rfl
    exact hat hc

/-- Whether none of them is in a text can be computed. -/
theorem no_delimiter_of_all {s : List Char}
    (h : (s.all fun c => !hostDelimiters.contains c) = true) : ∀ c ∈ s, c ∉ hostDelimiters := by
  simpa using h

/-- A URL that leads to nothing below its host. -/
structure AtRoot (u : Url) : Prop where
  path : u.path = "" ∨ u.path = "/"
  query : u.query = none
  fragment : u.fragment = none

variable {host : List Char} {port : Int} {u : Url}

/-- The text, put together from those of its parts. -/
theorem hostPortText_eq (host : String) (port : Int) :
    "http://" ++ host ++ ":" ++ toString port = String.ofList (hostPortText host.toList port) := by
  rw [← String.toList_inj]
  simp [hostPortText, schemed, portSuffix]

/-! ### Below the host -/

/-- A path that ends with a port behind its last slash keeps the colon before it. -/
private theorem colon_mem_normalPath (s : List Char) (port : Int) :
    ':' ∈ normalPath (s ++ portSuffix (some port)) := by
  -- The port joins the last segment, which is no dot segment since it has a colon.
  obtain ⟨front, last, hpieces⟩ : ∃ front last, splitBy (· = '/') s = front ++ [last] :=
    ⟨_, _, (List.dropLast_concat_getLast (splitBy_ne_nil _ s)).symm⟩
  have hslash : ∀ c ∈ portSuffix (some port), decide (c = '/') = false := by
    intro c hc
    rw [decide_eq_false_iff_not]
    rintro rfl
    have hend := (ne_of_mem_portSuffix hc).2.2.2.1
    revert hend
    decide
  have hcolon : ':' ∈ last ++ portSuffix (some port) :=
    List.mem_append_right last List.mem_cons_self
  refine mem_normalPath (splitBy_concat hpieces hslash) ?_ hcolon
  rintro (hdot | hdot)
  · rw [hdot] at hcolon
    revert hcolon
    decide
  · rw [hdot] at hcolon
    revert hcolon
    decide

/-- What follows the end of the authority leads below the host. -/
private theorem not_atRoot (h : parse (String.ofList (hostPortText host port)) = .ok u)
    (hend : ∃ c ∈ host, endsAuthority c = true) : ¬u.AtRoot := by
  have hparts := fromParts_of_parse h
  rw [String.toList_ofList] at hparts
  obtain ⟨c, hc, hend⟩ := hend
  have hne : host.dropWhile (!endsAuthority ·) ≠ [] := by
    intro hnil
    have hall := List.dropWhile_eq_nil_iff.1 hnil c hc
    rw [hend] at hall
    cases hall
  -- the port is at the end of what follows the authority
  have hbehind : (host ++ portSuffix (some port)).dropWhile (!endsAuthority ·) =
      host.dropWhile (!endsAuthority ·) ++ portSuffix (some port) := by
    rw [List.dropWhile_append, if_neg (by simpa using hne)]
  have hscheme : isScheme "http".toList = true := by decide
  simp only [hostPortText, ofText_schemed hscheme, hbehind] at hparts
  generalize host.dropWhile (!endsAuthority ·) = s at hparts
  intro hroot
  by_cases hhash : '#' ∈ s ++ portSuffix (some port)
  · have hnone := hparts.fragment
    rw [hroot.fragment, eq_comm, Option.map_eq_none_iff] at hnone
    exact cutOption_ne_none hhash hnone
  · rw [cutOption_of_not_mem hhash] at hparts
    by_cases hmark : '?' ∈ s ++ portSuffix (some port)
    · have hnone := hparts.query
      rw [hroot.query, eq_comm, Option.map_eq_none_iff] at hnone
      exact cutOption_ne_none hmark hnone
    · rw [cutOption_of_not_mem hmark] at hparts
      have hpath := hparts.path (List.cons_ne_nil _ _)
      have hcolon : ':' ∈ u.path.toList := by
        rw [hpath]
        exact List.mem_flatMap.2 ⟨':', colon_mem_normalPath s port, by decide⟩
      rcases hroot.path with hempty | hempty
      · rw [hempty] at hcolon
        revert hcolon
        decide
      · rw [hempty] at hcolon
        revert hcolon
        decide

/-- Without the end of the authority in it, the host is read with the port. -/
private theorem fromParts_of_authority
    (h : parse (String.ofList (hostPortText host port)) = .ok u)
    (hhost : ∀ c ∈ host, endsAuthority c = false) :
    u.FromParts ⟨"http".toList, host ++ portSuffix (some port), [], none, none⟩
      (WrittenAuthority.ofText (host ++ portSuffix (some port))) := by
  have hparts := fromParts_of_parse h
  rw [String.toList_ofList] at hparts
  have hfront : ∀ c ∈ host ++ portSuffix (some port), endsAuthority c = false := by
    intro c hc
    rcases List.mem_append.1 hc with hc | hc
    · exact hhost c hc
    · exact (ne_of_mem_portSuffix hc).2.2.2.1
  -- There is no end of the authority in it, so all of it is the authority.
  have hwritten : Written.ofText (hostPortText host port) =
      ⟨"http".toList, host ++ portSuffix (some port), [], none, none⟩ := by
    rw [hostPortText, ← List.append_nil (host ++ portSuffix (some port)),
      ofText_schemed_append (by decide) hfront []]
    rfl
  rw [hwritten] at hparts
  exact hparts

/-- A URL with a host and a port leads to nothing below the host exactly when nothing in the host
ends the authority. -/
theorem atRoot_iff (h : parse (String.ofList (hostPortText host port)) = .ok u) :
    u.AtRoot ↔ ∀ c ∈ host, endsAuthority c = false := by
  constructor
  · intro hroot c hc
    refine Bool.eq_false_iff.2 fun hend => ?_
    exact not_atRoot h ⟨c, hc, hend⟩ hroot
  · intro hhost
    -- The authority is the whole text, so nothing is left for a path.
    have hparts := fromParts_of_authority h hhost
    refine ⟨.inl ?_, hparts.query, hparts.fragment⟩
    have hpath : u.path.toList = [] := hparts.path (List.cons_ne_nil _ _)
    simpa using hpath

/-! ### Host and port -/

/-- A port that is read has no colon in it. -/
theorem colon_not_mem_of_normalPort {port scheme : List Char} {n : Option Int}
    (h : normalPort port scheme = .ok n) : ':' ∉ port := by
  intro hcolon
  rw [normalPort] at h
  split at h
  · rename_i hempty
    rw [hempty] at hcolon
    cases hcolon
  · split at h
    · rename_i hread
      -- A character of a number is a blank, a sign, an underscore or a digit; a colon is none.
      rcases Number.mem_of_readInt hread hcolon with hblank | hsign | hdigit
      · exact absurd hblank (by decide)
      · exact absurd hsign (by decide)
      · exact absurd (Number.isDigit_of_digitValue? hdigit (by decide)) (by decide)
    · cases h

/-- Only the colon at the beginning is dropped. -/
private theorem eq_nil_of_dropColon {a b : List Char} (h : ':' ∉ dropColon (a ++ ':' :: b)) :
    a = [] := by
  cases a with
  | nil => rfl
  | cons c rest =>
    refine absurd ?_ h
    by_cases hc : c = ':'
    · subst hc
      simp [dropColon]
    · have hkeep : dropColon (c :: rest ++ ':' :: b) = c :: rest ++ ':' :: b := by
        unfold dropColon
        split
        · rename_i heq
          exact absurd (List.cons.inj heq).1 hc
        · rfl
      rw [hkeep]
      simp

/-- Host and port are told apart where the port can be read. -/
theorem ofText_hostPort (hat : '@' ∉ host) {scheme : List Char} {n : Option Int}
    (h : normalPort (WrittenAuthority.ofText (host ++ portSuffix (some port))).port scheme =
      .ok n) :
    WrittenAuthority.ofText (host ++ portSuffix (some port)) =
      ⟨[], host, portText (some port)⟩ := by
  have hcolon := colon_not_mem_of_normalPort h
  -- There is no at sign, so no user information is cut off.
  have hnone : cutLast '@' (host ++ portSuffix (some port)) = none := by
    refine cutLast_eq_none.2 fun hmem => ?_
    rcases List.mem_append.1 hmem with hmem | hmem
    · exact hat hmem
    · exact (ne_of_mem_portSuffix hmem).1 rfl
  have hsuffix : portSuffix (some port) = ':' :: portText (some port) := rfl
  simp only [WrittenAuthority.ofText, hnone, Option.getD_none] at hcolon ⊢
  split at hcolon
  · -- what begins with a bracket ends with one
    rename_i before after _ hcut
    obtain ⟨heq, hclose⟩ := eq_of_cutLast_eq_some hcut
    -- The closing bracket stands in the host, since there is none in the port.
    have hmem : ']' ∈ host := by
      have hmem : ']' ∈ host ++ portSuffix (some port) := by
        rw [heq]
        simp
      rcases List.mem_append.1 hmem with hmem | hmem
      · exact hmem
      · exact absurd rfl (ne_of_mem_portSuffix hmem).2.1
    obtain ⟨inner, behind, hhost, hno⟩ := exists_last_of_mem hmem
    have hsame : cutLast ']' (host ++ portSuffix (some port)) =
        some (inner, behind ++ portSuffix (some port)) := by
      rw [hhost, List.append_assoc, List.cons_append]
      refine cutLast_append_cons inner fun hmem => ?_
      rcases List.mem_append.1 hmem with hmem | hmem
      · exact hno hmem
      · exact (ne_of_mem_portSuffix hmem).2.1 rfl
    cases hcut.symm.trans hsame
    rw [hsuffix] at hcolon
    have hempty := eq_nil_of_dropColon hcolon
    subst hempty
    simp [hhost, hsuffix, dropColon]
  · -- anything else ends at the first colon
    have hfree : ':' ∉ host := by
      intro hmem
      obtain ⟨before, after, hsplit, hno⟩ := List.eq_append_cons_of_mem hmem
      have hall : ∀ c ∈ before, (c != ':') = true := by
        intro c hc
        rw [bne_iff_ne]
        rintro rfl
        exact hno hc
      rw [hsplit, List.append_assoc, List.dropWhile_append_of_pos hall] at hcolon
      refine hcolon ?_
      simp [dropColon, hsuffix]
    have hall : ∀ c ∈ host, (c != ':') = true := by
      intro c hc
      rw [bne_iff_ne]
      rintro rfl
      exact hfree hc
    rw [List.takeWhile_append_of_pos hall, List.dropWhile_append_of_pos hall, hsuffix]
    simp [dropColon]

/-- A host without delimiters is read with its port. -/
theorem fromParts_of_hostPort (h : parse (String.ofList (hostPortText host port)) = .ok u)
    (hhost : ∀ c ∈ host, endsAuthority c = false) (hat : '@' ∉ host) :
    u.FromParts ⟨"http".toList, host ++ portSuffix (some port), [], none, none⟩
      ⟨[], host, portText (some port)⟩ := by
  have hparts := fromParts_of_authority h hhost
  rw [ofText_hostPort hat hparts.port] at hparts
  exact hparts

/-- What stands before the last at sign is user information; the host is what follows. -/
theorem fromParts_of_userHostPort {user : List Char}
    (h : parse (String.ofList (hostPortText (user ++ '@' :: host) port)) = .ok u)
    (hhost : ∀ c ∈ user ++ '@' :: host, endsAuthority c = false) (hat : '@' ∉ host) :
    u.FromParts ⟨"http".toList, user ++ '@' :: host ++ portSuffix (some port), [], none, none⟩
      ⟨user, host, portText (some port)⟩ := by
  have hparts := fromParts_of_authority h hhost
  have hrest : '@' ∉ host ++ portSuffix (some port) := by
    intro hmem
    rcases List.mem_append.1 hmem with hmem | hmem
    · exact hat hmem
    · exact (ne_of_mem_portSuffix hmem).1 rfl
  have hauthority : WrittenAuthority.ofText (user ++ '@' :: host ++ portSuffix (some port)) =
      { WrittenAuthority.ofText (host ++ portSuffix (some port)) with userinfo := user } := by
    rw [List.append_assoc, List.cons_append, ofText_userinfo user hrest]
  rw [hauthority] at hparts
  -- The host behind the at sign is told apart from the port, which could be read.
  rw [ofText_hostPort hat hparts.port] at hparts
  exact hparts

/-- A port that is written is the one that is reached, also when it is the usual one. -/
theorem effectivePort_of_fromParts {w : Written} {a : WrittenAuthority} (h : u.FromParts w a)
    (hscheme : w.scheme = "http".toList) (hport : a.port = portText (some port))
    (hsmall : port.natAbs < Number.digitBound) : u.effectivePort = some port := by
  have hsame : u.scheme = "http" := by
    rw [← String.toList_inj, h.scheme, hscheme]
    -- The usual port is dropped by the normal form and put back by what is reached.
    decide
  have hread := h.port
  have hbound : ∀ n, some port = some n → n.natAbs < Number.digitBound := by
    rintro n ⟨⟩
    exact hsmall
  rw [hport, hscheme, normalPort_portText hbound] at hread
  rw [effectivePort, hsame, ← Except.ok.inj hread]
  by_cases husual : usualPort? "http" = some port
  · rw [if_pos husual, ← husual]
    rfl
  · rw [if_neg husual]

/-- The usual port may be left out. -/
theorem effectivePort_of_usual {v : Url} (hscheme : u.scheme = "http" ∨ u.scheme = "https")
    (hsame : v.scheme = u.scheme)
    (hport : v.port = if usualPort? u.scheme = u.port then none else u.port) :
    v.effectivePort = u.effectivePort := by
  rw [effectivePort, effectivePort, hsame, hport]
  by_cases husual : usualPort? u.scheme = u.port
  · rw [if_pos husual, ← husual]
    rcases hscheme with hs | hs <;> rw [hs] <;> rfl
  · rw [if_neg husual]

end Egress.Url
