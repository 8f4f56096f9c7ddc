import Egress.Url.Parse

/-! # Resolving references

A reference is resolved against a base URL: it takes from the base what it does not say itself, and
a relative path is appended to the directory of the base path.

* `Url.resolve`   the text of a reference, resolved against the text of a base
* `Url.join`      the same for URLs -/

namespace Egress

open Egress.Text

namespace Url

/-- The parts of a reference, with the parameters of its last segment taken apart. -/
structure Reference where
  scheme : List Char
  authority : List Char
  -- The path, without the parameters of its last segment.
  path : List Char
  -- What follows the first semicolon in the last segment.
  params : List Char
  query : List Char
  fragment : List Char

/-- The schemes whose references are resolved. -/
def relativeSchemes : List String :=
  ["", "ftp", "http", "gopher", "nntp", "imap", "wais", "file", "https", "shttp", "mms", "prospero",
    "rtsp", "rtsps", "rtspu", "sftp", "svn", "svn+ssh", "ws", "wss"]

/-- The schemes whose URLs have an authority. -/
def authoritySchemes : List String :=
  ["", "ftp", "http", "gopher", "nntp", "telnet", "imap", "wais", "file", "mms", "https", "shttp",
    "snews", "prospero", "rtsp", "rtsps", "rtspu", "rsync", "svn", "svn+ssh", "sftp", "nfs", "git",
    "git+ssh", "ws", "wss"]

/-- The schemes whose last segments have parameters. -/
def paramSchemes : List String :=
  ["", "ftp", "hdl", "prospero", "http", "imap", "https", "shttp", "rtsp", "rtsps", "rtspu", "sip",
    "sips", "mms", "sftp", "tel"]

/-- A path without the parameters of its last segment, and these. -/
def cutParams (path : List Char) : List Char × List Char :=
  match cutLast '/' path with
  | some (directory, last) => match cut ';' last with
    | some (name, params) => (directory ++ '/' :: name, params)
    | none => (path, [])
  | none => cutOr ';' path

/-- The parts of a reference; one without a scheme takes the one given. -/
def Reference.ofText (s scheme : List Char) : Reference :=
  let w := Written.ofText s
  let scheme := if w.scheme = [] then scheme else w.scheme.map Char.toLower
  let (path, params) :=
    if paramSchemes.contains (String.ofList scheme) then cutParams w.path else (w.path, [])
  ⟨scheme, w.authority, path, params, w.query.getD [], w.fragment.getD []⟩

def Reference.text (r : Reference) : List Char :=
  let path := if r.params = [] then r.path else r.path ++ ';' :: r.params
  let named := r.scheme ≠ [] ∧ authoritySchemes.contains (String.ofList r.scheme) ∧
    ¬['/', '/'].isPrefixOf path
  let path := if r.authority ≠ [] ∨ named then
      '/' :: '/' :: r.authority ++ (if path ≠ [] ∧ path.head? ≠ some '/' then '/' :: path else path)
    else path
  (if r.scheme = [] then [] else r.scheme ++ [':']) ++ path ++
    (if r.query = [] then [] else '?' :: r.query) ++
    (if r.fragment = [] then [] else '#' :: r.fragment)

/-- The segments of a path appended to a directory, without the empty ones inside. -/
def appendSegments (directory path : List (List Char)) : List (List Char) :=
  let all := directory ++ path
  all.take 1 ++ ((all.drop 1).dropLast.filter (· ≠ [])) ++ (if all.length ≤ 1 then [] else
    all.getLast?.toList)

/-- Segments with `.` left out and `..` leading one up; a path that ends with one of these ends with
a slash. -/
def resolveDots (segments : List (List Char)) : List (List Char) :=
  let resolved := (segments.foldl (fun reversed segment =>
    if segment = ['.', '.'] then reversed.drop 1
    else if segment = ['.'] then reversed
    else segment :: reversed) []).reverse
  match segments.getLast? with
  | some ['.'] | some ['.', '.'] => resolved ++ [[]]
  | _ => resolved

/-- The text of a reference resolved against the text of a base. -/
def resolve (base reference : List Char) : List Char :=
  if base = [] then reference
  else if reference = [] then base
  else
    let b := Reference.ofText base []
    let r := Reference.ofText reference b.scheme
    let scheme := String.ofList r.scheme
    if r.scheme ≠ b.scheme ∨ !relativeSchemes.contains scheme then reference
    else if authoritySchemes.contains scheme ∧ r.authority ≠ [] then r.text
    else
      let r := if authoritySchemes.contains scheme then { r with authority := b.authority } else r
      if r.path = [] ∧ r.params = [] then
        Reference.text { r with
          path := b.path, params := b.params, query := if r.query = [] then b.query else r.query }
      else
        let directory :=
          let parts := splitBy (· = '/') b.path
          if parts.getLast? = some [] then parts else parts.dropLast
        let parts := splitBy (· = '/') r.path
        let segments := if r.path.head? = some '/' then parts else appendSegments directory parts
        let path := joinPath (resolveDots segments)
        Reference.text { r with path := if path = [] then ['/'] else path }

/-- A URL resolved against a base. -/
def join (base reference : Url) : Except UrlError Url :=
  parse (String.ofList (resolve base.text.toList reference.text.toList))

end Url

end Egress
