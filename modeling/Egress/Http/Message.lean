import Egress.Http.Line
import Egress.Url.Basic

/-! # Messages

Requests and responses, and the cookies between them. A cookie store is outside of the library: a
rule says which cookies there are for a request after the responses to earlier ones.

* `Request`      a request
* `Response`     a response
* `CookieRule`   what a cookie store has for a request -/

namespace Egress

open Egress.Http

/-- A request. -/
structure Request where
  method : String
  url : Url
  -- The header lines, in order.
  lines : Lines
  body : List UInt8
  -- The encoding of the lines, once it was found out; lines are added in it.
  encoding : Option Encoding := none
  deriving DecidableEq, Repr

/-- A response. -/
structure Response where
  status : Int := 200
  headers : List (String × String) := []
  body : String := ""
  deriving DecidableEq, Repr

/-- What a cookie store has for a request. -/
inductive Kept where
  -- There are no cookies at all.
  | nothing
  -- There are cookies; the text is of those that belong to the request, if any do.
  | cookies (text : Option String)

/-- Requests that were answered, with their responses, in order. -/
abbrev Answered := List (Request × Response)

/-- What a cookie store has for a request, after other requests were answered. -/
abbrev CookieRule := Answered → Request → Kept

/-- A store that keeps no cookies. -/
def CookieRule.none : CookieRule := fun _ _ => .nothing

end Egress
