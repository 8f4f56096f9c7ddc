import Egress.Proofs.Url.Normal
import Egress.Proxy.Configuration

/-!
# Taking the user information out of a URL

A URL in normal form that has a host is written without its user information by checking and
reading its components again. That changes nothing but the user information, up to the letter case
of escapes in the host and a port that is the usual one of the scheme. It fails in two cases only:
where a component is too long, and where the host falsely looks like an IPv4 address.

## Key results

- `ofText_authority`: the authority of a URL in normal form is read back
- `ofParts_normal`: so are its components
- `withoutUserinfo_eq`: what becomes of a URL without its user information
-/

namespace Egress.Url

open Egress.Text Egress.Host

/-! ### The authority -/

/-- A port as it stands in an authority, without its colon. -/
def portText (port : Option Int) : List Char := port.elim [] fun n => (toString n).toList

/-- A port as it stands in an authority. -/
def portSuffix (port : Option Int) : List Char := port.elim [] fun n => ':' :: (toString n).toList

/-- The authority of a URL, character by character. -/
theorem toList_authority (u : Url) :
    u.authority.toList = (if u.userinfo = "" then [] else u.userinfo.toList ++ ['@']) ++
      (bracketed u.host.toList ++ portSuffix u.port) := by
  -- Each of the three parts of the authority, character by character.
  have hport : (u.port.elim "" fun n => ":" ++ toString n).toList = portSuffix u.port := by
    cases u.port with
    | none => rfl
    | some n => simp [portSuffix]
  have hhost : u.bracketedHost.toList = bracketed u.host.toList := by
    simp only [bracketedHost, bracketed, List.contains_iff_mem]
    split <;> simp
  have huser : (if u.userinfo = "" then "" else u.userinfo ++ "@").toList =
      if u.userinfo = "" then [] else u.userinfo.toList ++ ['@'] := by
    split <;> simp
  rw [authority, netloc, String.toList_append, String.toList_append, huser, hhost, hport]

/-- A port has no delimiter of an authority but the colon before it. -/
private theorem mem_portSuffix {port : Option Int} {c : Char} (h : c ∈ portSuffix port) :
    c = ':' ∨ c.isDigit = true ∨ c = '-' := by
  cases port with
  | none => cases h
  | some n =>
    rcases List.mem_cons.1 h with rfl | h
    · exact .inl rfl
    · exact .inr (Number.isDigit_or_eq_of_mem_toString h)

/-- A character of a port is not one of the delimiters that are read from the right. -/
theorem ne_of_mem_portSuffix {port : Option Int} {c : Char} (h : c ∈ portSuffix port) :
    c ≠ '@' ∧ c ≠ ']' ∧ c ≠ '[' ∧ endsAuthority c = false ∧ isControl c = false := by
  rcases mem_portSuffix h with rfl | hd | rfl
  · decide
  -- Digits are looked at by their codes.
  · have hb := Number.isDigit_iff.1 hd
    have hne : ∀ d : Char, 57 < d.toNat ∨ d.toNat < 48 → c ≠ d := by
      rintro d hd rfl
      omega
    refine ⟨hne _ (by decide), hne _ (by decide), hne _ (by decide), ?_, ?_⟩
    · simp [endsAuthority, hne '/' (by decide), hne '?' (by decide), hne '#' (by decide)]
    · simp only [isControl, Bool.or_eq_false_iff, decide_eq_false_iff_not]
      omega
  · decide

/-- The characters of a host in its brackets. -/
private theorem mem_bracketed {h : List Char} {c : Char} (hc : c ∈ bracketed h) :
    c ∈ h ∨ c = '[' ∨ c = ']' := by
  simp only [bracketed] at hc
  split at hc
  · simp only [List.mem_append, List.mem_cons, List.not_mem_nil, or_false] at hc
    rcases hc with (hc | hc) | hc
    · exact .inr (.inl hc)
    · exact .inl hc
    · exact .inr (.inr hc)
  · exact .inl hc

/-- A host can be written in its brackets. -/
theorem isHostCharacter_of_mem_bracketed {h : List Char} (hn : NormalHost h) {c : Char}
    (hc : c ∈ bracketed h) : IsHostCharacter c := by
  rcases mem_bracketed hc with hc | rfl | rfl
  · exact hn.plain hc
  · exact ⟨by decide, by decide, by decide⟩
  · exact ⟨by decide, by decide, by decide⟩

/-- There is no at sign in host and port. -/
private theorem at_not_mem_netloc {h : List Char} (hn : NormalHost h) (port : Option Int) :
    '@' ∉ bracketed h ++ portSuffix port := by
  intro hmem
  rcases List.mem_append.1 hmem with hmem | hmem
  · exact (isHostCharacter_of_mem_bracketed hn hmem).2.2 rfl
  · exact (ne_of_mem_portSuffix hmem).1 rfl

/-- User information is what stands before the last at sign; the rest is read without it. -/
theorem ofText_userinfo (user : List Char) {rest : List Char} (h : '@' ∉ rest) :
    WrittenAuthority.ofText (user ++ '@' :: rest) =
      { WrittenAuthority.ofText rest with userinfo := user } := by
  have hcut : cutLast '@' (user ++ '@' :: rest) = some (user, rest) := cutLast_append_cons _ h
  have hnone : cutLast '@' rest = none := cutLast_eq_none.2 h
  simp only [WrittenAuthority.ofText, hcut, hnone, Option.getD_some, Option.getD_none]
  split <;> rfl

/-- There is no user information without an at sign. -/
theorem userinfo_ofText {s : List Char} (h : '@' ∉ s) :
    (WrittenAuthority.ofText s).userinfo = [] := by
  have hnone : cutLast '@' s = none := cutLast_eq_none.2 h
  simp only [WrittenAuthority.ofText, hnone, Option.getD_none]
  split <;> rfl

/-- Host and port in normal form are read back. -/
private theorem ofText_netloc {h : List Char} (hn : NormalHost h) (port : Option Int) :
    WrittenAuthority.ofText (bracketed h ++ portSuffix port) =
      ⟨[], bracketed h, portText port⟩ := by
  -- No user information is cut off, since there is no at sign in host and port.
  have hdrop : dropColon (portSuffix port) = portText port := by cases port <;> rfl
  have hcut : cutLast '@' (bracketed h ++ portSuffix port) = none :=
    cutLast_eq_none.2 (at_not_mem_netloc hn port)
  simp only [WrittenAuthority.ofText, hcut, Option.getD_none]
  by_cases hcolon : ':' ∈ h
  · -- the closing bracket of an IPv6 address is the last one
    have hb : bracketed h = '[' :: h ++ [']'] := if_pos hcolon
    have hclose : cutLast ']' (bracketed h ++ portSuffix port) =
        some ('[' :: h, portSuffix port) := by
      rw [hb, List.append_assoc]
      exact cutLast_append_cons _ fun hmem => (ne_of_mem_portSuffix hmem).2.1 rfl
    rw [hclose, hb]
    simp [hdrop]
  · -- a name ends where the port begins
    have hb : bracketed h = h := if_neg hcolon
    have hstart : ∀ rest, h ++ portSuffix port ≠ '[' :: rest := by
      intro rest heq
      cases h with
      | nil =>
        cases port with
        | none => cases heq
        | some n => cases heq
      | cons c more =>
        cases heq
        exact (hostSafe_no_delimiter (hn.safe hcolon List.mem_cons_self)).2.2.2.2.2.1 rfl
    have hne : ∀ c ∈ h, (c != ':') = true := by
      intro c hc
      rw [bne_iff_ne]
      rintro rfl
      exact hcolon hc
    have htake : (h ++ portSuffix port).takeWhile (· != ':') = h := by
      rw [List.takeWhile_append_of_pos hne]
      cases port <;> simp [portSuffix]
    have hrest : (h ++ portSuffix port).dropWhile (· != ':') = portSuffix port := by
      rw [List.dropWhile_append_of_pos hne]
      cases port <;> simp [portSuffix]
    rw [hb]
    split
    · rename_i heq _
      exact absurd heq (hstart _)
    · rw [htake, hrest, hdrop]

/-- The authority of a URL in normal form is read back. -/
theorem ofText_authority {u : Url} (hn : u.Normal) :
    WrittenAuthority.ofText u.authority.toList =
      ⟨u.userinfo.toList, bracketed u.host.toList, portText u.port⟩ := by
  have hnetloc := ofText_netloc hn.host u.port
  rw [toList_authority]
  by_cases hempty : u.userinfo = ""
  · rw [if_pos hempty, List.nil_append, hnetloc, hempty]
    rfl
  · rw [if_neg hempty, List.append_assoc, List.singleton_append,
      ofText_userinfo _ (at_not_mem_netloc hn.host u.port), hnetloc]

/-! ### Components that fit -/

/-- The components that are checked before a URL is put together, in their order. -/
def checkedParts (u : Url) : List (Component × Option (List Char)) :=
  [(.scheme, some u.scheme.toList), (.authority, some u.authority.toList),
    (.path, some u.path.toList), (.query, u.query.map String.toList),
    (.fragment, u.fragment.map String.toList)]

/-- Whether a component is too long to be given apart. -/
def isTooLong (part : Component × Option (List Char)) : Bool :=
  part.2.any fun s => maxLength < s.length

/-- The first component of a URL that is too long to be given apart. -/
def oversized (u : Url) : Option Component := (u.checkedParts.find? isTooLong).map (·.1)

/-- A component that is plainly written. -/
def IsPlain (part : Component × Option (List Char)) : Prop :=
  ∀ s, part.2 = some s → (∀ c ∈ s, isControl c = false) ∧ fitsComponent part.1 s = true

/-- Components that are plainly written pass unless one is too long. -/
theorem checkComponents_of_plain {parts : List (Component × Option (List Char))}
    (h : ∀ part ∈ parts, IsPlain part) :
    checkComponents parts =
      ((parts.find? isTooLong).map (·.1)).elim (.ok ()) fun k => .error (.componentTooLong k) := by
  induction parts with
  | nil => rfl
  | cons part rest ih =>
    have ih := ih fun p hp => h p (List.mem_cons_of_mem _ hp)
    have hpart := h part List.mem_cons_self
    obtain ⟨k, s⟩ := part
    cases s with
    | none =>
      rw [checkComponents, ih, List.find?_cons_of_neg (by simp [isTooLong])]
    | some s =>
      obtain ⟨hcontrol, hfits⟩ := hpart s rfl
      -- The first component that is too long decides, and one that fits leaves it to the others.
      by_cases hlong : maxLength < s.length
      · rw [checkComponents, checkComponent, if_pos hlong,
          List.find?_cons_of_pos (by simp [isTooLong, hlong])]
        rfl
      · have hnone : s.findIdx? isControl = none := List.findIdx?_eq_none_iff.2 hcontrol
        rw [checkComponents, checkComponent, if_neg hlong, hnone,
          List.find?_cons_of_neg (by simp [isTooLong, hlong])]
        simp only [hfits, if_true]
        exact ih

/-- The components of a URL in normal form are plainly written. -/
theorem plain_checkedParts {u : Url} (hn : u.Normal) :
    ∀ part ∈ u.checkedParts, IsPlain part := by
  intro part hpart s hs
  simp only [checkedParts, List.mem_cons, List.not_mem_nil, or_false] at hpart
  rcases hpart with rfl | rfl | rfl | rfl | rfl
  · -- scheme
    cases hs
    refine ⟨fun c hc => ?_, hn.scheme⟩
    have := ascii_of_isScheme hn.scheme hc
    simp only [isControl, Bool.or_eq_false_iff, decide_eq_false_iff_not]
    omega
  · -- authority
    cases hs
    have hall : ∀ c ∈ u.authority.toList, isControl c = false ∧ endsAuthority c = false := by
      intro c hc
      rw [toList_authority, List.mem_append, List.mem_append] at hc
      rcases hc with hc | hc | hc
      · split at hc
        · cases hc
        · rcases List.mem_append.1 hc with hc | hc
          · have hsafe := hn.userinfo c hc
            exact ⟨(printableExcept_no_control hsafe).1, (userinfoSafe_no_delimiter hsafe).2⟩
          · cases List.mem_singleton.1 hc
            decide
      · have hplain := isHostCharacter_of_mem_bracketed hn.host hc
        exact ⟨hplain.1, hplain.2.1⟩
      · exact ⟨(ne_of_mem_portSuffix hc).2.2.2.2, (ne_of_mem_portSuffix hc).2.2.2.1⟩
    refine ⟨fun c hc => (hall c hc).1, ?_⟩
    simp only [fitsComponent, Bool.not_eq_true', List.any_eq_false]
    exact fun c hc => by simp [(hall c hc).2]
  · -- path
    cases hs
    refine ⟨fun c hc => (printableExcept_no_control (hn.path c hc)).1, ?_⟩
    simp only [fitsComponent, Bool.not_eq_true', List.any_eq_false]
    exact fun c hc => by simp [pathSafe_no_delimiter (hn.path c hc)]
  · -- query
    obtain ⟨q, hq, rfl⟩ := Option.map_eq_some_iff.1 hs
    refine ⟨fun c hc => (printableExcept_no_control (hn.query q hq c hc)).1, ?_⟩
    simp only [fitsComponent, Bool.not_eq_true', List.contains_eq_mem, decide_eq_false_iff_not]
    exact fun hc => querySafe_no_delimiter (hn.query q hq _ hc) rfl
  · -- fragment
    obtain ⟨f, hf, rfl⟩ := Option.map_eq_some_iff.1 hs
    exact ⟨fun c hc => (printableExcept_no_control (hn.fragment f hf c hc)).1, rfl⟩

/-- What is checked besides: the user information is replaced by none, the host stays. -/
def strippedParts : List (Component × Option (List Char)) := [(.userinfo, some []), (.host, none)]

/-- No user information is plainly written. -/
private theorem plain_strippedParts : ∀ part ∈ strippedParts, IsPlain part := by
  intro part hpart s hs
  simp only [strippedParts, List.mem_cons, List.not_mem_nil, or_false] at hpart
  rcases hpart with rfl | rfl
  · cases hs
    refine ⟨fun c hc => ?_, rfl⟩
    cases hc
  · cases hs

/-! ### Reading again -/

/-- A URL without user information, read again: the host in lower case, and no port where it is the
usual one. -/
def withoutUser (u : Url) : Url :=
  { u with
    userinfo := ""
    host := String.ofList (lowered u.host.toList)
    port := if usualPort? u.scheme = u.port then none else u.port }

/-- Whether the host of a URL would be refused as an IPv4 address. -/
def hasFalseIpv4 (u : Url) : Bool := !u.host.toList.contains ':' && isFalseIpv4 u.host.toList

/-- The text of a port is read as that port, unless it is the usual one. -/
theorem normalPort_portText {port : Option Int} {scheme : String}
    (h : ∀ n, port = some n → n.natAbs < Number.digitBound) :
    normalPort (portText port) scheme.toList =
      .ok (if usualPort? scheme = port then none else port) := by
  cases port with
  | none => simp [normalPort, portText]
  | some n =>
    have hread := Number.readInt_toString (h n rfl)
    -- The text of a port is not empty, so it is read as a number.
    have hne : portText (some n) ≠ [] := by
      intro hnil
      simp only [portText, Option.elim_some] at hnil
      rw [hnil] at hread
      cases hread
    rw [normalPort, if_neg hne]
    simp only [portText, Option.elim_some, hread, String.ofList_toList]

/-- The components of a URL in normal form that has a host, read without user information. -/
theorem ofParts_normal {u : Url} (hn : u.Normal) (hhost : u.host ≠ "") :
    ofParts ⟨u.scheme.toList, u.authority.toList, u.path.toList, u.query.map String.toList,
        u.fragment.map String.toList⟩ ⟨[], bracketed u.host.toList, portText u.port⟩ =
      if u.hasFalseIpv4 then .error (.ipv4 u.host) else .ok u.withoutUser := by
  have hhostNil : u.host.toList ≠ [] := by simpa using hhost
  have hnormal := normalHost_bracketed hn.host
  simp only [hasFalseIpv4, Bool.and_eq_true, Bool.not_eq_true', List.contains_eq_mem,
    decide_eq_false_iff_not]
  -- A false IPv4 address is refused; any other host in normal form is kept.
  by_cases hfalse : ':' ∉ u.host.toList ∧ isFalseIpv4 u.host.toList = true
  · rw [if_pos hfalse] at hnormal ⊢
    simp only [ofParts, hnormal, String.ofList_toList]
    rfl
  · rw [if_neg hfalse] at hnormal ⊢
    have hlowered : lowered u.host.toList ≠ [] := by
      simp only [lowered]
      -- Lowering does not empty a host.
      split
      · exact hhostNil
      · simpa using hhost
    -- The path of a URL with a host is empty or begins with a slash.
    have hpath : ∀ hasScheme, checkPath u.path.toList hasScheme true = .ok () := by
      intro hasScheme
      rw [checkPath, if_neg, if_pos (.inr rfl)]
      rintro ⟨_, hne, hhead⟩
      exact (hn.rooted hhost).elim hne hhead
    have hquery : (u.query.map String.toList).map
        (fun q => String.ofList (encode querySafe q)) = u.query := by
      cases hq : u.query with
      | none => rfl
      | some q => simp [encode_of_all (hn.query q hq)]
    have hfragment : (u.fragment.map String.toList).map
        (fun f => String.ofList (encode fragmentSafe f)) = u.fragment := by
      cases hf : u.fragment with
      | none => rfl
      | some f => simp [encode_of_all (hn.fragment f hf)]
    simp only [ofParts, hnormal, normalPort_portText hn.port, encode_nil]
    simp [bind, Except.bind, pure, Except.pure, hlowered, hpath, hn.lowerScheme, hn.resolved hhost,
      encode_of_all hn.path, hquery, hfragment, withoutUser]

/-- What becomes of a URL in normal form that has a host without its user information. -/
theorem withoutUserinfo_eq {u : Url} (hn : u.Normal) (hhost : u.host ≠ "") :
    u.withoutUserinfo =
      match u.oversized with
      | some k => .error (.componentTooLong k)
      | none => if u.hasFalseIpv4 then .error (.ipv4 u.host) else .ok u.withoutUser := by
  -- Updating the user information checks the components and reads them again.
  have hupdate : u.withoutUserinfo =
      (checkComponents (u.checkedParts ++ strippedParts)).bind fun _ =>
        ofParts ⟨u.scheme.toList, u.authority.toList, u.path.toList, u.query.map String.toList,
          u.fragment.map String.toList⟩
          { WrittenAuthority.ofText u.authority.toList with userinfo := [] } := rfl
  have hplain : ∀ part ∈ u.checkedParts ++ strippedParts, IsPlain part := by
    intro part hpart
    rcases List.mem_append.1 hpart with hpart | hpart
    · exact plain_checkedParts hn part hpart
    · exact plain_strippedParts part hpart
  have hfind : ((u.checkedParts ++ strippedParts).find? isTooLong).map (·.1) = u.oversized := by
    -- The two components that take the user information away are short.
    have hlast : strippedParts.find? isTooLong = none := by decide
    rw [List.find?_append, hlast, Option.or_none, oversized]
  rw [hupdate, checkComponents_of_plain hplain, hfind, ofText_authority hn]
  cases u.oversized with
  | some k => rfl
  | none => exact ofParts_normal hn hhost

end Egress.Url
