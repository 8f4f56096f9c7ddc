import Egress.Host.Ipv6
import Egress.Number.IntText
import Egress.Text.LetterCase
import Egress.Url.Basic

/-! # Reading URLs

A text is split at its delimiters into the written components; each component is checked and
brought into normal form.

* `Written.ofText`   the components of a text, as written
* `Url.ofParts`      the URL of written components
* `Url.parse`        the URL of a text
* `Url.update`       a URL with some components replaced -/

namespace Egress

open Egress.Text Egress.Host

/-- The components of a URL. -/
inductive Component where
  | scheme
  -- User information, host and port together.
  | authority
  | path
  | query
  | fragment
  -- User name and password.
  | userinfo
  | host
  deriving DecidableEq, Repr

/-- The word for a component. -/
def Component.name : Component → String
  | .scheme => "scheme"
  | .authority => "authority"
  | .path => "path"
  | .query => "query"
  | .fragment => "fragment"
  | .userinfo => "userinfo"
  | .host => "host"

/-- Why a text is not a URL. -/
inductive UrlError where
  | tooLong
  | controlCharacter (c : Char) (position : Nat)
  | componentTooLong (part : Component)
  | componentControl (part : Component) (c : Char) (position : Nat)
  -- A component holds a delimiter.
  | badComponent (part : Component)
  -- The host looks like an IPv4 address and is none.
  | ipv4 (host : String)
  -- The host stands in brackets and is no IPv6 address.
  | ipv6 (host : String)
  | hostName (host : String)
  | port (text : String)
  | pathAfterAuthority
  -- A path that begins with two slashes and would be taken for an authority.
  | pathSlashes
  | pathColon
  deriving DecidableEq, Repr

/-- The wording of an error. -/
def UrlError.message : UrlError → String
  | .tooLong => "URL too long"
  | .controlCharacter c i => "Invalid non-printable ASCII character in URL, " ++
      quoted (String.singleton c) ++ " at position " ++ toString i ++ "."
  | .componentTooLong k => "URL component '" ++ k.name ++ "' too long"
  | .componentControl k c i => "Invalid non-printable ASCII character in URL " ++ k.name ++
      " component, " ++ quoted (String.singleton c) ++ " at position " ++ toString i ++ "."
  | .badComponent k => "Invalid URL component '" ++ k.name ++ "'"
  | .ipv4 h => "Invalid IPv4 address: " ++ quoted h
  | .ipv6 h => "Invalid IPv6 address: " ++ quoted h
  | .hostName h => "Invalid IDNA hostname: " ++ quoted h
  | .port t => "Invalid port: " ++ quoted t
  | .pathAfterAuthority => "For absolute URLs, path must be empty or begin with '/'"
  | .pathSlashes => "Relative URLs cannot have a path starting with '//'"
  | .pathColon => "Relative URLs cannot have a path starting with ':'"

namespace Url

/-- The most characters that a URL, or a component given apart, may have. -/
def maxLength : Nat := 65536

/-- Whether a character is an ASCII control character. -/
def isControl (c : Char) : Bool := c.toNat < 0x20 || c.toNat = 0x7F

/-! ## Splitting -/

/-- The components of a URL as written. -/
structure Written where
  -- What stands before the first colon, if that is a scheme.
  scheme : List Char
  -- What stands between two slashes and the path.
  authority : List Char
  path : List Char
  -- What follows the question mark.
  query : Option (List Char)
  -- What follows the hash sign.
  fragment : Option (List Char)

/-- Whether a text is a scheme, which may be empty. -/
def isScheme (s : List Char) : Bool :=
  match s with
  | [] => true
  | c :: rest => c.isAlpha && rest.all fun c => c.isAlphanum || c = '+' || c = '.' || c = '-'

/-- Whether a character ends an authority. -/
def endsAuthority (c : Char) : Bool := c = '/' || c = '?' || c = '#'

/-- The scheme of a text and what follows its colon. -/
def cutScheme (s : List Char) : List Char × List Char :=
  match cut ':' s with
  | some (scheme, rest) => if isScheme scheme then (scheme, rest) else ([], s)
  | none => ([], s)

/-- The authority of a text and what follows it. -/
def cutAuthority (s : List Char) : List Char × List Char :=
  match s with
  | '/' :: '/' :: rest => (rest.takeWhile (!endsAuthority ·), rest.dropWhile (!endsAuthority ·))
  | _ => ([], s)

/-- A text before a delimiter, and what follows the delimiter if it occurs. -/
def cutOption (sep : Char) (s : List Char) : List Char × Option (List Char) :=
  match cut sep s with
  | some (before, after) => (before, some after)
  | none => (s, none)

/-- The components of a text. -/
def Written.ofText (s : List Char) : Written :=
  let (scheme, s) := cutScheme s
  let (authority, s) := cutAuthority s
  let (s, fragment) := cutOption '#' s
  let (path, query) := cutOption '?' s
  ⟨scheme, authority, path, query, fragment⟩

/-- What stands before the last occurrence of a character, and what follows it. -/
def cutLast (sep : Char) (s : List Char) : Option (List Char × List Char) :=
  (cut sep s.reverse).map fun (after, before) => (before.reverse, after.reverse)

/-- The parts of an authority as written. -/
structure WrittenAuthority where
  -- What stands before the last at sign.
  userinfo : List Char
  -- The host, in brackets if it is written so.
  host : List Char
  -- What follows the host and its colon.
  port : List Char

/-- A text without a colon at its beginning. -/
def dropColon (s : List Char) : List Char :=
  match s with
  | ':' :: rest => rest
  | _ => s

/-- The parts of an authority. -/
def WrittenAuthority.ofText (s : List Char) : WrittenAuthority :=
  let (userinfo, s) := (cutLast '@' s).getD ([], s)
  match s, cutLast ']' s with
  | '[' :: _, some (host, rest) => ⟨userinfo, host ++ [']'], dropColon rest⟩
  | _, _ => ⟨userinfo, s.takeWhile (· != ':'), dropColon (s.dropWhile (· != ':'))⟩

/-! ## Normal forms -/

/-- The normal form of a host. -/
def normalHost (host : List Char) : Except UrlError (List Char) :=
  if host = [] then .ok []
  else if looksLikeIpv4 host then
    if isIpv4 host then .ok host else .error (.ipv4 (String.ofList host))
  else if host.head? = some '[' ∧ host.getLast? = some ']' then
    let inner := (host.drop 1).dropLast
    if isIpv6 inner then .ok inner else .error (.ipv6 (String.ofList host))
  else if host.all fun c => c.toNat < 128 then .ok (encode hostSafe (host.map Char.toLower))
  else if 254 < host.length then .error (.hostName (String.ofList host))
  else match toAscii (lower host) with
    | .ok name => .ok name
    | .error _ => .error (.hostName (String.ofList host))

/-- The normal form of a port: none if it is empty or the usual one of the scheme as written. -/
def normalPort (port scheme : List Char) : Except UrlError (Option Int) :=
  if port = [] then .ok none
  else match Number.readInt port with
    | .ok n => .ok (if usualPort? (String.ofList scheme) = some n then none else some n)
    | .error _ => .error (.port (String.ofList port))

/-- Removes the segments `.` and `..` from the segments of a path. -/
def dropDots (segments : List (List Char)) : List (List Char) :=
  (segments.foldl (fun reversed segment =>
    if segment = ['.'] then reversed
    else if segment = ['.', '.'] then if reversed = [[]] then reversed else reversed.drop 1
    else segment :: reversed) []).reverse

/-- Segments joined by slashes. -/
def joinPath (segments : List (List Char)) : List Char := (segments.intersperse ['/']).flatten

/-- A path without the segments `.` and `..`. -/
def normalPath (path : List Char) : List Char :=
  let segments := splitBy (· = '/') path
  if segments.any fun s => s = ['.'] || s = ['.', '.'] then joinPath (dropDots segments) else path

/-- Checks that a path fits what stands before it. -/
def checkPath (path : List Char) (hasScheme hasAuthority : Bool) : Except UrlError Unit :=
  if hasAuthority ∧ path ≠ [] ∧ path.head? ≠ some '/' then .error .pathAfterAuthority
  else if hasScheme ∨ hasAuthority then .ok ()
  else if ['/', '/'].isPrefixOf path then .error .pathSlashes
  else if path.head? = some ':' then .error .pathColon
  else .ok ()

/-- The URL of written components. -/
def ofParts (w : Written) (a : WrittenAuthority) : Except UrlError Url := do
  let userinfo := encode userinfoSafe a.userinfo
  let host ← normalHost a.host
  let port ← normalPort a.port w.scheme
  let hasScheme := w.scheme ≠ []
  let hasAuthority := userinfo ≠ [] || host ≠ [] || port.isSome
  checkPath w.path hasScheme hasAuthority
  let path := if hasScheme || hasAuthority then normalPath w.path else w.path
  return {
    scheme := String.ofList (w.scheme.map Char.toLower)
    userinfo := String.ofList userinfo
    host := String.ofList host
    port := port
    path := String.ofList (encode pathSafe path)
    query := w.query.map fun q => String.ofList (encode querySafe q)
    fragment := w.fragment.map fun f => String.ofList (encode fragmentSafe f) }

/-- The URL that a text stands for. -/
def parse (s : String) : Except UrlError Url :=
  let chars := s.toList
  if maxLength < chars.length then .error .tooLong
  else match chars.findIdx? isControl with
    | some i => .error (.controlCharacter (chars.getD i ' ') i)
    | none =>
      let w := Written.ofText chars
      ofParts w (WrittenAuthority.ofText w.authority)

/-! ## Replacing components -/

/-- Components to replace. A component given as `some none` is removed. -/
structure Change where
  scheme : Option String := none
  rawPath : Option String := none
  -- User name and password together.
  userinfo : Option String := none
  host : Option String := none
  fragment : Option (Option String) := none

/-- Whether a text may stand for a component. -/
def fitsComponent (k : Component) (s : List Char) : Bool :=
  match k with
  | .scheme => isScheme s
  | .authority => !s.any endsAuthority
  | .path => !s.any fun c => c = '?' || c = '#'
  | .query => !s.contains '#'
  | .fragment => true
  | .userinfo => !s.contains '@'
  | .host => (s.head? = some '[' && s.getLast? = some ']' && 1 < s.length) ||
      !s.any fun c => c = ':' || c = '@'

/-- Checks a component that is given apart. -/
def checkComponent (k : Component) (s : List Char) : Except UrlError Unit :=
  if maxLength < s.length then .error (.componentTooLong k)
  else match s.findIdx? isControl with
    | some i => .error (.componentControl k (s.getD i ' ') i)
    | none => if fitsComponent k s then .ok () else .error (.badComponent k)

/-- Checks the components that are present, in order. -/
def checkComponents : List (Component × Option (List Char)) → Except UrlError Unit
  | [] => .ok ()
  | (_, none) :: rest => checkComponents rest
  | (k, some s) :: rest => (checkComponent k s).bind fun _ => checkComponents rest

/-- A host as it is given apart: one with a colon is put into brackets. -/
def givenHost (h : List Char) : List Char :=
  if h.contains ':' ∧ ¬(h.head? = some '[' ∧ h.getLast? = some ']') then '[' :: h ++ [']'] else h

/-- A URL with components replaced. All components are checked and normalized again. -/
def update (u : Url) (c : Change) : Except UrlError Url := do
  let raw := c.rawPath.map fun r => cutOption '?' r.toList
  let w : Written := {
    scheme := (c.scheme.getD u.scheme).toList
    authority := u.authority.toList
    path := raw.elim u.path.toList (·.1)
    query := raw.elim (u.query.map String.toList) (·.2)
    fragment := (c.fragment.getD u.fragment).map String.toList }
  let userinfo := c.userinfo.map String.toList
  let host := c.host.map fun h => givenHost h.toList
  checkComponents [(.scheme, some w.scheme), (.authority, some w.authority), (.path, some w.path),
    (.query, w.query), (.fragment, w.fragment), (.userinfo, userinfo), (.host, host)]
  let a := WrittenAuthority.ofText w.authority
  ofParts w { a with userinfo := userinfo.getD a.userinfo, host := host.getD a.host }

end Url

end Egress
