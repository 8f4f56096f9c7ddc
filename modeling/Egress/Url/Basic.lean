import Egress.Host.Label
import Egress.Text.Cut
import Egress.Url.Percent

/-! # URLs

A URL in normal form: a scheme in lower case, an authority, a path, and perhaps a query and a
fragment, all of them percent-encoded ASCII. The host of an IPv6 address stands without brackets.

* `text`      the URL as text
* `display`   the same, with the password hidden
* `username`, `password`, `decodedPath`, `decodedFragment`, `hostName`   parts, decoded -/

namespace Egress

open Egress.Text

/-- A URL. -/
structure Url where
  -- The scheme, without its colon.
  scheme : String
  -- User name and password, as they stand before the at sign.
  userinfo : String
  -- The host, without brackets.
  host : String
  -- The port, if it is not the usual one of the scheme.
  port : Option Int
  path : String
  -- What follows the question mark.
  query : Option String
  -- What follows the hash sign.
  fragment : Option String
  deriving DecidableEq, Repr

namespace Url

/-- The host as it stands in an authority: an IPv6 address is put into brackets. -/
def bracketedHost (u : Url) : String :=
  if u.host.toList.contains ':' then "[" ++ u.host ++ "]" else u.host

/-- Host and port. -/
def netloc (u : Url) : String :=
  u.bracketedHost ++ (u.port.elim "" fun p => ":" ++ toString p)

/-- User information, host and port. -/
def authority (u : Url) : String :=
  (if u.userinfo = "" then "" else u.userinfo ++ "@") ++ u.netloc

def textWith (u : Url) (authority : String) : String :=
  (if u.scheme = "" then "" else u.scheme ++ ":") ++
    (if authority = "" then "" else "//" ++ authority) ++ u.path ++
    (u.query.elim "" ("?" ++ ·)) ++ (u.fragment.elim "" ("#" ++ ·))

def text (u : Url) : String := u.textWith u.authority

instance : ToString Url := ⟨text⟩

/-- The user name. -/
def username (u : Url) : String := String.ofList (decode (cutOr ':' u.userinfo.toList).1)

def password (u : Url) : String :=
  String.ofList (decode ((cut ':' u.userinfo.toList).elim [] (·.2)))

/-- The URL between quotes, with the password hidden. -/
def display (u : Url) : String :=
  let shown := match cut ':' u.userinfo.toList with
    | some (name, _) => String.ofList name ++ ":[secure]"
    | none => u.userinfo
  "URL(" ++ quoted (u.textWith ((if shown = "" then "" else shown ++ "@") ++ u.netloc)) ++ ")"

/-- The path, or a slash if it is empty. -/
def pathOrSlash (u : Url) : String := if u.path = "" then "/" else u.path

def decodedPath (u : Url) : String := String.ofList (decode u.pathOrSlash.toList)

/-- Path and query. -/
def rawPath (u : Url) : String := u.pathOrSlash ++ u.query.elim "" ("?" ++ ·)

def decodedFragment (u : Url) : String := String.ofList (decode (u.fragment.getD "").toList)

/-- Whether the URL has a scheme and a host. -/
def isAbsolute (u : Url) : Bool := u.scheme ≠ "" && u.host ≠ ""

/-- The code points of the host's name: a name that begins with `xn--` is read back. -/
def hostCodes (u : Url) : Except Host.NameError (List Nat) :=
  if "xn--".toList.isPrefixOf u.host.toList then Host.toUnicode u.host.toList
  else .ok (u.host.toList.map Char.toNat)

/-- The host's name: a name that begins with `xn--` is read back. -/
def hostName (u : Url) : Except Host.NameError String :=
  u.hostCodes.map fun codes => String.ofList (codes.map Char.ofNat)

/-- The port that a scheme has unless another is given. -/
def usualPort? (scheme : String) : Option Int :=
  match scheme with
  | "ftp" => some 21
  | "http" | "ws" => some 80
  | "https" | "wss" => some 443
  | _ => none

end Url

end Egress
