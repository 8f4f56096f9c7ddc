import Egress.Text.CodeTable

/-! # IPv4 addresses

* `isIpv4`         four decimal numbers up to 255, without leading zeros, between full stops
* `looksLikeIpv4`  four runs of digits between full stops, which is what makes a host an address
  rather than a name -/

namespace Egress.Host

open Egress.Text

/-- Whether a text is a decimal number up to 255 without leading zeros. -/
def isOctet (s : List Char) : Bool :=
  s ≠ [] && s.all Char.isDigit && s.length ≤ 3 && !(s.head? = some '0' && s.length ≠ 1) &&
    s.foldl (fun n c => 10 * n + (c.toNat - 48)) 0 ≤ 255

/-- Whether a text is an IPv4 address. -/
def isIpv4 (s : List Char) : Bool :=
  let octets := splitBy (· = '.') s
  octets.length == 4 && octets.all isOctet

/-- Whether a text is four runs of digits between full stops. -/
def looksLikeIpv4 (s : List Char) : Bool :=
  let runs := splitBy (· = '.') s
  runs.length == 4 && runs.all fun run => run ≠ [] && run.all Char.isDigit

end Egress.Host
