import Egress.Host.Ipv4
import Egress.Text.Cut

/-! # IPv6 addresses

Eight groups of hexadecimal digits between colons. One run of zero groups may be left out, the last
two groups may be written as an IPv4 address, and a zone may follow after a percent sign. -/

namespace Egress.Host

open Egress.Text

/-- Whether a text is one to four hexadecimal digits. -/
def isGroup (s : List Char) : Bool :=
  s ≠ [] && s.length ≤ 4 && s.all fun c => (hexValue? c).isSome

/-- Whether groups, where an empty one stands for the zeros left out, make an address. -/
def areGroups (parts : List (List Char)) : Bool :=
  let inner := (parts.drop 1).dropLast
  let skips := inner.filter List.isEmpty
  if 9 < parts.length ∨ 1 < skips.length then false
  else if skips = [] then parts.length == 8 && parts.all isGroup
  else
    let high := parts.takeWhile (· ≠ []) 
    let first := parts.head? = some []
    let last := parts.getLast? = some []
    let before := if first then [] else high
    let after := (parts.reverse.takeWhile (· ≠ [])).reverse
    let firstOk := !first || (parts.drop 1).head? = some []
    let lastOk := !last || (parts.dropLast).getLast? = some []
    firstOk && lastOk && before.length + after.length < 8 && before.all isGroup && after.all isGroup

/-- Whether a text without a zone is an address. -/
def isIpv6WithoutZone (s : List Char) : Bool :=
  let parts := splitBy (· = ':') s
  if parts.length < 3 then false
  else
    let last := parts.getLast?.getD []
    if last.contains '.' then isIpv4 last && areGroups (parts.dropLast ++ [['0'], ['0']])
    else areGroups parts

/-- Whether a text is an IPv6 address, with or without a zone. -/
def isIpv6 (s : List Char) : Bool :=
  if s.contains '/' then false
  else match cut '%' s with
    | none => isIpv6WithoutZone s
    | some (address, zone) => zone ≠ [] && !zone.contains '%' && isIpv6WithoutZone address

end Egress.Host
