import Egress.Proofs.Proxy.Wording

/-!
# What a derivation shows of a password

The password under `ProxyPassword` is never seen. The password inside of `ProxyUri` is seen in two
cases: an address that is rejected is quoted as it was given, and an address whose authority
becomes too long fails with one password and not with the other.

## Key results

- `stripped_of_userinfo`: only the length of the authority depends on the password
- `finish_withPassword`, `readAddress_looksLike`: accepted addresses, and all of them
- `indistinguishable_iff`: runs are told apart where the password leaks, and nowhere else
-/

namespace Egress.ProxyConfiguration

open Egress.Text Egress.Url

/-! ### Accepted addresses -/

/-- The components that follow the authority of an address. -/
def laterParts (u : Url) : List (Component × Option (List Char)) :=
  [(.path, some u.path.toList), (.query, u.query.map String.toList),
    (.fragment, u.fragment.map String.toList)]

/-- What becomes of an address whose authority is not too long. -/
def strippedRest (u : Url) : Except DerivationError Url :=
  match ((laterParts u).find? isTooLong).map (·.1) with
  | some k => .error (.url (.componentTooLong k))
  | none => if u.hasFalseIpv4 then .error (.url (.ipv4 u.host)) else .ok u.withoutUser

/-- What becomes of an accepted address with user information. -/
theorem stripped_of_userinfo {u : Url} (hu : ProxyAddress u) (hne : u.userinfo ≠ "") :
    (HasLongAuthority u → stripped u = .error (.url (.componentTooLong .authority))) ∧
      (¬HasLongAuthority u → stripped u = strippedRest u) := by
  -- the schemes of proxies are not too long
  have hscheme : ¬maxLength < u.scheme.toList.length := by
    rcases hu.scheme with h | h <;> rw [h] <;> decide
  have hparts : u.checkedParts = (.scheme, some u.scheme.toList) ::
      (.authority, some u.authority.toList) :: laterParts u := rfl
  rw [stripped_eq hu, if_neg hne, oversized, hparts,
    List.find?_cons_of_neg (by simpa [isTooLong] using hscheme)]
  refine ⟨fun hlong => ?_, fun hshort => ?_⟩
  · have hpart : isTooLong (.authority, some u.authority.toList) = true := decide_eq_true hlong
    rw [List.find?_cons_of_pos hpart]
    rfl
  · have hpart : isTooLong (.authority, some u.authority.toList) = false := decide_eq_false hshort
    rw [List.find?_cons_of_neg (by simp [hpart])]
    rfl

/-- Not every error about an address is one about its authority. -/
theorem strippedRest_ne_authority {u : Url} {e : UrlError}
    (h : strippedRest u = .error (.url e)) :
    e.message ≠ (UrlError.componentTooLong .authority).message := by
  -- A later component is named in the message, and a host is in the other one.
  rw [strippedRest] at h
  split at h
  · rename_i k hk
    cases h
    obtain ⟨part, hfind, rfl⟩ := Option.map_eq_some_iff.1 hk
    have hmem := List.mem_of_find?_eq_some hfind
    simp only [laterParts, List.mem_cons, List.not_mem_nil, or_false] at hmem
    have hne : ∀ k ∈ [Component.path, .query, .fragment],
        (UrlError.componentTooLong k).message ≠
          (UrlError.componentTooLong .authority).message := by decide +kernel
    rcases hmem with rfl | rfl | rfl <;> exact hne _ (by simp)
  · split at h
    · cases h
      intro hmessage
      have hipv4 : (UrlError.ipv4 u.host).message =
          "Invalid IPv4 address: " ++ quoted u.host := rfl
      have hauthority : (UrlError.componentTooLong .authority).message =
          "URL component '" ++ "authority' too long" := by decide +kernel
      -- The two messages differ in their second character.
      rw [hipv4, hauthority] at hmessage
      have hlist := congrArg String.toList hmessage
      rw [String.toList_append, String.toList_append] at hlist
      exact absurd hlist (append_ne_append 1 (by decide) (by decide) (by decide) _ _)
    · cases h

/-- An authority that is too long tells its password from one whose authority is not. -/
theorem not_looksLike_of_long {p q : Properties} {u v : Url} (hu : ProxyAddress u)
    (hv : ProxyAddress v) (hune : u.userinfo ≠ "") (hvne : v.userinfo ≠ "")
    (hlong : HasLongAuthority u) (hshort : ¬HasLongAuthority v)
    {k l : Option BasicCredentials} (hk : credentialsFor p u = .ok k)
    (hl : credentialsFor q v = .ok l) : ¬LooksLike (finish p u) (finish q v) := by
  intro hlike
  -- The left run fails in the authority, the right one behind it.
  have hleft : finish p u = .error (.url (.componentTooLong .authority)) := by
    rw [finish, hk, (stripped_of_userinfo hu hune).1 hlong]
    rfl
  have hright : finish q v = (strippedRest v).bind fun w => .ok (some ⟨w, l⟩) := by
    rw [finish, hl, (stripped_of_userinfo hv hvne).2 hshort]
    rfl
  have hseen := hlike.seen
  simp only [hleft, hright] at hseen
  cases hrest : strippedRest v with
  | ok w =>
    rw [hrest] at hseen
    cases hseen
  | error e =>
    rw [hrest] at hseen
    simp only [Except.bind, seen, Seen.error.injEq] at hseen
    -- Only an error about the URL has the class of the left one.
    cases e with
    | url e => exact strippedRest_ne_authority hrest hseen.2.symm
    | proxy e => cases hseen.1
    | portDigits => cases hseen.1
    | hostName e => cases e <;> cases hseen.1

section Address

variable {t : PasswordText} {x y : List Char}

/-- A text with a password that is read is the text without it, and the password put in. -/
theorem common_of_parse (hx : IsPassword x) {v : Url}
    (h : Url.parse (String.ofList (t.text x)) = .ok v) :
    ∃ u, t.common = .ok u ∧ v = t.withPassword u x := by
  rw [t.parse_text hx, guarded_eq_ok] at h
  obtain ⟨u, hu, rfl⟩ := map_eq_ok.1 h.2.2
  exact ⟨u, hu, rfl⟩

/-- The name of a host is not in the user information. -/
theorem hostCodes_withPassword (u : Url) : (t.withPassword u x).hostCodes = u.hostCodes := rfl

/-- Two texts with passwords that are not rejected have the same unreadable name, or are accepted
with URLs that differ in the user information only. -/
theorem readAddress_of_not_rejected (hx : IsPassword x) (hy : IsPassword y)
    (hleft : ¬Rejected (String.ofList (t.text x)))
    (hright : ¬Rejected (String.ofList (t.text y))) :
    (∃ e, readAddress (String.ofList (t.text x)) = .error (.hostName e) ∧
      readAddress (String.ofList (t.text y)) = .error (.hostName e)) ∨
    ∃ u, readAddress (String.ofList (t.text x)) = .ok (t.withPassword u x) ∧
      readAddress (String.ofList (t.text y)) = .ok (t.withPassword u y) := by
  obtain ⟨v, hparse, hv⟩ := (readAddress_cases _).resolve_left hleft
  obtain ⟨w, hparse', hw⟩ := (readAddress_cases _).resolve_left hright
  obtain ⟨u, hu, rfl⟩ := common_of_parse hx hparse
  obtain ⟨u', hu', rfl⟩ := common_of_parse hy hparse'
  cases hu.symm.trans hu'
  rw [hostCodes_withPassword] at hv hw
  -- Both runs read the same name, so they fail with the same error or succeed together.
  rcases hv with ⟨e, he, hread⟩ | ⟨codes, hcodes, hread⟩
  · rcases hw with ⟨f, hf, hread'⟩ | ⟨codes, hcodes, hread'⟩
    · cases he.symm.trans hf
      exact .inl ⟨e, hread, hread'⟩
    · cases he.symm.trans hcodes
  · rcases hw with ⟨f, hf, hread'⟩ | ⟨codes', hcodes', hread'⟩
    · cases hcodes.symm.trans hf
    · exact .inr ⟨u, hread, hread'⟩

/-- The user name is read without the password. -/
theorem username_withPassword (hx : IsPassword x) (u : Url) :
    (t.withPassword u x).username = String.ofList (decode (encode userinfoSafe t.user)) := by
  -- The colon in front of the password is the first one, since the user is written without colons.
  have hcolon : ':' ∉ encode userinfoSafe t.user := by
    intro hmem
    rcases mem_encode hmem with ⟨hmem, _⟩ | hmem
    · exact (t.user_spec _ hmem).1 rfl
    · revert hmem
      decide
  have hpassword : encode userinfoSafe x = x :=
    encode_of_all fun c hc => (isUnreserved_spec (hx.unreserved c hc)).1
  have hone : encode userinfoSafe (':' :: x) = ':' :: x := by
    rw [← hpassword]
    exact encode_of_all fun c hc => by
      rcases List.mem_cons.1 hc with rfl | hc
      · decide
      · exact safe_of_mem_encode userinfoSafe_escapes hc
  have huserinfo : encode userinfoSafe (t.userinfo x) = encode userinfoSafe t.user ++ ':' :: x := by
    rw [PasswordText.userinfo, encode_append, hone]
  simp only [username, PasswordText.withPassword, String.toList_ofList, huserinfo, cutOr,
    cut_append_cons _ hcolon, Option.getD_some]

/-- There is user information in a URL with a password. -/
theorem userinfo_withPassword (u : Url) : (t.withPassword u x).userinfo ≠ "" := by
  have hne : encode userinfoSafe (t.userinfo x) ≠ [] := by
    intro hnil
    have := encode_eq_nil.1 hnil
    simp [PasswordText.userinfo] at this
  simpa [PasswordText.withPassword] using hne

/-- Accepted addresses with different passwords look alike unless credentials can be read and the
authority is too long with one of the passwords only. -/
theorem finish_withPassword {p q : Properties} (hx : IsPassword x) (hy : IsPassword y)
    (same : SameBesides .proxyUri p q) {u : Url} (hu : ProxyAddress (t.withPassword u x))
    (hv : ProxyAddress (t.withPassword u y)) :
    LooksLike (finish p (t.withPassword u x)) (finish q (t.withPassword u y)) ↔
      ∀ k, credentialsFor p (t.withPassword u x) = .ok k →
        (HasLongAuthority (t.withPassword u x) ↔ HasLongAuthority (t.withPassword u y)) := by
  have hname : (t.withPassword u x).username = (t.withPassword u y).username := by
    rw [username_withPassword hx, username_withPassword hy]
  have huser : SameUser (credentialsFor p (t.withPassword u x))
      (credentialsFor q (t.withPassword u y)) :=
    sameUser_credentialsFor (same.readText (by decide)) hname (.inl (same.readText (by decide)))
  -- Behind the authority, the two URLs are the same.
  have hrest : strippedRest (t.withPassword u x) = strippedRest (t.withPassword u y) := rfl
  have hleft := stripped_of_userinfo hu (userinfo_withPassword u)
  have hright := stripped_of_userinfo hv (userinfo_withPassword u)
  constructor
  -- If they look alike, neither is too long without the other.
  · intro hlike k hk
    obtain ⟨l, hl⟩ := huser.ok_right hk
    refine ⟨fun hlong => ?_, fun hlong => ?_⟩
    · refine Classical.byContradiction fun hshort => ?_
      exact not_looksLike_of_long hu hv (userinfo_withPassword u) (userinfo_withPassword u) hlong
        hshort hk hl hlike
    · refine Classical.byContradiction fun hshort => ?_
      exact not_looksLike_of_long hv hu (userinfo_withPassword u) (userinfo_withPassword u) hlong
        hshort hl hk hlike.symm
  · intro hlong
    -- Without credentials both end before the user information is taken away.
    cases hk : credentialsFor p (t.withPassword u x) with
    | error e =>
      rw [finish, finish, hk, huser.error_right hk]
      exact .refl _
    | ok k =>
      have hiff := hlong k hk
      have hstripped : stripped (t.withPassword u x) = stripped (t.withPassword u y) := by
        by_cases hauthority : HasLongAuthority (t.withPassword u x)
        · rw [hleft.1 hauthority, hright.1 (hiff.1 hauthority)]
        · rw [hleft.2 hauthority, hright.2 fun h => hauthority (hiff.2 h), hrest]
      exact finish_looksLike huser hstripped

/-- With a password in its address, a store has that address and no other. -/
theorem addressText_text {p : Properties}
    (hread : readText p .proxyUri = .ok (some (String.ofList (t.text x)))) {raw : String} :
    AddressText p raw ↔
      raw = String.ofList (t.text x) ∧ ∃ host, readText p .proxyHost = .ok host := by
  have hne : String.ofList (t.text x) ≠ "" := by simp [PasswordText.text]
  constructor
  · intro h
    -- The text under `ProxyUri` is not empty, so it is the one.
    cases h with
    | uri hu hh _ =>
      cases hread.symm.trans hu
      exact ⟨rfl, _, hh⟩
    | host hu hh habsent _ _ _ =>
      cases hread.symm.trans hu
      exact absurd habsent hne
  · rintro ⟨rfl, host, hhost⟩
    exact .uri hread hhost hne

/-- With a password in its address, a store has that address read once the host is. -/
theorem address_text {p : Properties}
    (hread : readText p .proxyUri = .ok (some (String.ofList (t.text x)))) :
    address p = (readText p .proxyHost).bind fun _ =>
      (readAddress (String.ofList (t.text x))).bind fun u => .ok (some u) :=
  address_of_uri hread (by simp [PasswordText.text])

/-- What is derived with a password in the address, once the type and the host are read. -/
theorem derive_text {p : Properties} (htype : TypeAccepted p)
    (hread : readText p .proxyUri = .ok (some (String.ofList (t.text x))))
    {host : Option String} (hhost : readText p .proxyHost = .ok host) :
    derive p = (readAddress (String.ofList (t.text x))).bind (finish p) := by
  obtain ⟨type, htype, hcheck⟩ := htype
  rw [derive_eq, htype, address_text hread, hhost]
  simp only [Except.bind, hcheck]
  cases readAddress (String.ofList (t.text x)) <;> rfl

/-- Reading addresses with different passwords, and what is derived from them, looks alike unless
one of them is rejected or becomes too long. -/
theorem readAddress_looksLike {p q : Properties} (hx : IsPassword x) (hy : IsPassword y)
    (same : SameBesides .proxyUri p q) :
    LooksLike ((readAddress (String.ofList (t.text x))).bind (finish p))
        ((readAddress (String.ofList (t.text y))).bind (finish q)) ↔
      (x = y ∨ (¬Rejected (String.ofList (t.text x)) ∧ ¬Rejected (String.ofList (t.text y)))) ∧
      ∀ u v, readAddress (String.ofList (t.text x)) = .ok u →
        readAddress (String.ofList (t.text y)) = .ok v →
        ∀ k, credentialsFor p u = .ok k → (HasLongAuthority u ↔ HasLongAuthority v) := by
  by_cases hno : ¬Rejected (String.ofList (t.text x)) ∧ ¬Rejected (String.ofList (t.text y))
  · rcases readAddress_of_not_rejected hx hy hno.1 hno.2 with ⟨e, hl, hr⟩ | ⟨u, hl, hr⟩
    · -- the name of the host cannot be read
      rw [hl, hr]
      refine ⟨fun _ => ⟨.inr hno, fun u v hu => ?_⟩, fun _ => .refl _⟩
      cases hu
    · have hlike := finish_withPassword hx hy same (proxyAddress_of_readAddress hl)
        (proxyAddress_of_readAddress hr)
      simp only [hl, hr, Except.bind]
      rw [hlike]
      refine ⟨fun h => ⟨.inr hno, ?_⟩, fun h => ?_⟩
      · intro v w hv hw
        cases hv
        cases hw
        exact h
      · exact h.2 _ _ rfl rfl
  · by_cases heq : x = y
    · -- the same address is rejected in both runs
      subst heq
      obtain ⟨e, he⟩ : Rejected (String.ofList (t.text x)) :=
        Classical.byContradiction fun h => hno ⟨h, h⟩
      rw [he]
      refine ⟨fun _ => ⟨.inl rfl, fun u v hu => ?_⟩, fun _ => .refl _⟩
      cases hu
    · have hdiffer : ¬LooksLike ((readAddress (String.ofList (t.text x))).bind (finish p))
          ((readAddress (String.ofList (t.text y))).bind (finish q)) := by
        by_cases hleft : Rejected (String.ofList (t.text x))
        · exact not_looksLike_of_rejected hx hy heq hleft
        · have hright : Rejected (String.ofList (t.text y)) :=
            Classical.byContradiction fun h => hno ⟨hleft, h⟩
          exact fun h => not_looksLike_of_rejected hy hx (fun h => heq h.symm) hright h.symm
      exact ⟨fun h => absurd h hdiffer, fun h => absurd h.1 fun ho => ho.elim heq hno⟩

/-- Runs with different passwords in the address look alike unless the password leaks. -/
theorem address_looksLike {p q : Properties} (hx : IsPassword x) (hy : IsPassword y)
    (same : SameBesides .proxyUri p q)
    (left : readText p .proxyUri = .ok (some (String.ofList (t.text x))))
    (right : readText q .proxyUri = .ok (some (String.ofList (t.text y)))) :
    LooksLike (derive p) (derive q) ↔ ¬Leaks p q := by
  have htypes : readText p .proxyType = readText q .proxyType := same.readText (by decide)
  have hhosts : readText p .proxyHost = readText q .proxyHost := same.readText (by decide)
  -- Only runs that get as far as the address can differ.
  by_cases hready : TypeAccepted p ∧ ∃ host, readText p .proxyHost = .ok host
  · obtain ⟨htype, host, hhost⟩ := hready
    have htype' : TypeAccepted q := by
      obtain ⟨type, hread, hcheck⟩ := htype
      exact ⟨type, htypes ▸ hread, hcheck⟩
    have hp : ∀ {raw}, AddressText p raw ↔ _ := addressText_text left
    have hq : ∀ {raw}, AddressText q raw ↔ _ := addressText_text right
    rw [derive_text htype left hhost, derive_text htype' right (hhosts ▸ hhost),
      readAddress_looksLike hx hy same]
    constructor
    -- Each leak is an instance of one of the two differences.
    · rintro ⟨hreject, hlength⟩ hleak
      cases hleak with
      | quoted _ hl hr hdiffer hrejected =>
        obtain ⟨rfl, _⟩ := hp.1 hl
        obtain ⟨rfl, _⟩ := hq.1 hr
        rcases hreject with rfl | ⟨hl, hr⟩
        · exact hdiffer rfl
        · exact hrejected.elim hl hr
      | length _ hl hr hu hv hk hdiffer =>
        obtain ⟨rfl, _⟩ := hp.1 hl
        obtain ⟨rfl, _⟩ := hq.1 hr
        exact hdiffer (hlength _ _ hu hv _ hk)
    -- Each difference would be a leak.
    · intro hleak
      have hl := hp.2 ⟨rfl, host, hhost⟩
      have hr := hq.2 ⟨rfl, host, hhosts ▸ hhost⟩
      refine ⟨?_, fun u v hu hv k hk => ?_⟩
      · by_cases heq : x = y
        · exact .inl heq
        · have hne : String.ofList (t.text x) ≠ String.ofList (t.text y) :=
            fun htext => heq (t.text_injective (String.ofList_injective htext))
          exact .inr ⟨fun h => hleak (.quoted htype hl hr hne (.inl h)),
            fun h => hleak (.quoted htype hl hr hne (.inr h))⟩
      · exact Classical.byContradiction fun h => hleak (.length htype hl hr hu hv hk h)
  · -- both runs end before the address is looked at
    have hsame : derive p = derive q := by
      rw [derive_eq, derive_eq, address_text left, address_text right, ← htypes, ← hhosts]
      cases hread : readText p .proxyType with
      | error e => rfl
      | ok type =>
        simp only [Except.bind]
        cases hcheck : checkType type with
        | error e => rfl
        | ok _ =>
          cases hhost : readText p .proxyHost with
          | error e => rfl
          | ok host => exact absurd ⟨⟨type, hread, hcheck⟩, host, hhost⟩ hready
    rw [hsame]
    refine ⟨fun _ hleak => ?_, fun _ => .refl _⟩
    cases hleak with
    | quoted htype hl _ _ _ => exact hready ⟨htype, ((addressText_text left).1 hl).2⟩
    | length htype hl _ _ _ _ _ => exact hready ⟨htype, ((addressText_text left).1 hl).2⟩

end Address

/-! ### Passwords that are seen -/

/-- Runs with different passwords are indistinguishable unless the password leaks. -/
theorem indistinguishable_iff {p q : Properties} (h : SameButPassword p q) :
    Indistinguishable (deriveLogged p) (deriveLogged q) ↔ ¬Leaks p q := by
  cases h with
  | property _ _ same left right =>
    exact ⟨fun _ => not_leaks_property same, fun _ => property_looksLike same left right⟩
  | address t hx hy same left right => exact address_looksLike hx hy same left right

/-- An address with the scheme of file transfers, in which a user has a password. -/
def ftpText : PasswordText where
  start := "ftp:".toList
  user := "user".toList
  rest := "host".toList
  start_spec := .inr ⟨"ftp".toList, by decide, by decide⟩
  user_spec := by
    have all : ("user".toList.all fun c => c != ':' && !endsAuthority c) = true := by decide
    simpa using all
  rest_spec := by decide

/-- The store with such an address. -/
def ftpStore (password : String) : Properties :=
  .ofEntries [(.text PropertyKey.proxyUri.name,
    .text (String.ofList (ftpText.text password.toList)))]

/-- The address in such a store is read. -/
private theorem readText_ftpStore (password : String) :
    readText (ftpStore password) .proxyUri =
      .ok (some (String.ofList (ftpText.text password.toList))) := by
  have hkey : Value.sameKey (.text PropertyKey.proxyUri.name) (.text PropertyKey.proxyUri.name) =
      true := by decide +kernel
  simp only [readText, Properties.readText?, Properties.get?, Value.entry?, ftpStore,
    Properties.ofEntries, Value.freezeEntries, List.find?_cons, hkey]
  rfl

/-- Two such stores differ in the password only. -/
private theorem sameButPassword_ftpStore {x y : String} (hx : IsPassword x.toList)
    (hy : IsPassword y.toList) : SameButPassword (ftpStore x) (ftpStore y) :=
  .address ftpText hx hy (sameBesides_of_entries .proxyUri [] [] _ _) (readText_ftpStore x)
    (readText_ftpStore y)

/-- Runs with the passwords `one` and `two` in an address. -/
theorem indistinguishable_iff_ftp : SameButPassword (ftpStore "one") (ftpStore "two") ∧
    (Indistinguishable (deriveLogged (ftpStore "one")) (deriveLogged (ftpStore "two")) ↔
      ¬Leaks (ftpStore "one") (ftpStore "two")) := by
  have h : SameButPassword (ftpStore "one") (ftpStore "two") :=
    sameButPassword_ftpStore (isPassword_of_all (by decide) (by decide))
      (isPassword_of_all (by decide) (by decide))
  exact ⟨h, indistinguishable_iff h⟩

/-- An address that is rejected is written down with the password in it. -/
theorem distinguishable_ftp : SameButPassword (ftpStore "secret") (ftpStore "hunter2") ∧
    ¬Indistinguishable (deriveLogged (ftpStore "secret")) (deriveLogged (ftpStore "hunter2")) := by
  refine ⟨sameButPassword_ftpStore (isPassword_of_all (by decide) (by decide))
      (isPassword_of_all (by decide) (by decide)), fun h => ?_⟩
  have hrecords := h.records
  revert hrecords
  decide +kernel

end Egress.ProxyConfiguration
