import Egress.Proofs.Url.Stripping
import Egress.Proofs.Url.Written

/-!
# URLs with a password in them

A text with a password in its user information is read the same way whatever the password is: the
password decides nothing but the user information of the URL, and whether the text is too long.

## Key results

- `ofParts_userinfo`: user information that is there decides nothing else about a URL
- `PasswordText`: texts with a place for a password
- `parse_text`: how such a text is read
-/

namespace Egress.Url

open Egress.Text Egress.Host

/-- User information that is there decides nothing else about a URL. -/
theorem ofParts_userinfo (w : Written) (a : WrittenAuthority) {x y : List Char} (hx : x ≠ [])
    (hy : y ≠ []) :
    ofParts w { a with userinfo := x } = (ofParts w { a with userinfo := y }).map fun u =>
      { u with userinfo := String.ofList (encode userinfoSafe x) } := by
  have hex : decide (encode userinfoSafe x ≠ []) = true :=
    decide_eq_true fun h => hx (encode_eq_nil.1 h)
  have hey : decide (encode userinfoSafe y ≠ []) = true :=
    decide_eq_true fun h => hy (encode_eq_nil.1 h)
  -- there is an authority in both cases
  simp only [ofParts, hex, hey, Bool.true_or, bind, Except.bind, pure, Except.pure]
  cases normalHost a.host with
  | error e => rfl
  | ok host =>
    cases normalPort a.port w.scheme with
    | error e => rfl
    | ok port =>
      simp only
      cases checkPath w.path (decide (w.scheme ≠ [])) true with
      | error e => rfl
      | ok _ => rfl

/-! ### Texts with a password -/

/-- A text with a place for a password: the user information before the last at sign of the
authority has a user name and a colon. -/
structure PasswordText where
  -- What stands before the authority and its two slashes.
  start : List Char
  user : List Char
  -- What follows the at sign.
  rest : List Char
  -- A scheme and its colon stand before the authority, or nothing does.
  start_spec : start = [] ∨ ∃ scheme, isScheme scheme = true ∧ start = scheme ++ [':']
  -- The user name ends at the colon, inside of the authority.
  user_spec : ∀ c ∈ user, c ≠ ':' ∧ endsAuthority c = false
  -- The at sign is the last one of the authority.
  rest_spec : '@' ∉ rest.takeWhile (!endsAuthority ·)

/-- A password of unreserved characters. -/
structure IsPassword (password : List Char) : Prop where
  nonempty : password ≠ []
  unreserved : ∀ c ∈ password, isUnreserved c = true

/-- A text that is not empty and consists of unreserved characters is such a password. -/
theorem isPassword_of_all {s : List Char} (hne : s ≠ []) (h : s.all isUnreserved = true) :
    IsPassword s := ⟨hne, List.all_eq_true.1 h⟩

/-- An unreserved character is printable ASCII, safe in user information, and no delimiter. -/
theorem isUnreserved_spec {c : Char} (h : isUnreserved c = true) :
    userinfoSafe c = true ∧ c ≠ '@' ∧ endsAuthority c = false ∧ isControl c = false ∧ c ≠ ':' :=
  of_isUnreserved (P := fun c => userinfoSafe c = true ∧ c ≠ '@' ∧ endsAuthority c = false ∧
    isControl c = false ∧ c ≠ ':') (by decide +kernel) h

namespace PasswordText

variable (t : PasswordText)

/-- The user information with a password. -/
def userinfo (password : List Char) : List Char := t.user ++ ':' :: password

/-- The text with a password in it. -/
def text (password : List Char) : List Char :=
  t.start ++ '/' :: '/' :: (t.userinfo password ++ '@' :: t.rest)

/-- Texts with different passwords are different. -/
theorem text_injective {x y : List Char} (h : t.text x = t.text y) : x = y := by
  simp only [text, userinfo, List.append_assoc, List.cons_append] at h
  have h := List.append_cancel_left h
  simp only [List.cons.injEq, true_and] at h
  have h := List.append_cancel_left h
  exact List.append_cancel_right (List.cons.inj h).2

/-- The components of the text, but for its authority. -/
def outer : Written := Written.ofText (t.start ++ '/' :: '/' :: t.rest)

/-- What is read whatever the password is. -/
def common : Except UrlError Url :=
  ofParts t.outer { WrittenAuthority.ofText t.outer.authority with userinfo := [':'] }

/-- The URL that is read with a password. -/
def withPassword (u : Url) (password : List Char) : Url :=
  { u with userinfo := String.ofList (encode userinfoSafe (t.userinfo password)) }

/-- No character of the user information ends the authority. -/
private theorem userinfo_spec {password : List Char} (h : IsPassword password) :
    ∀ c ∈ t.userinfo password, endsAuthority c = false := by
  intro c hc
  rcases List.mem_append.1 hc with hc | hc
  · exact (t.user_spec c hc).2
  · rcases List.mem_cons.1 hc with rfl | hc
    · decide
    · exact (isUnreserved_spec (h.unreserved c hc)).2.2.1

/-- The start is taken off as the scheme. -/
private theorem cutScheme_start {start : List Char}
    (h : start = [] ∨ ∃ scheme, isScheme scheme = true ∧ start = scheme ++ [':'])
    (rest : List Char) :
    cutScheme (start ++ '/' :: '/' :: rest) = (start.dropLast, '/' :: '/' :: rest) := by
  rcases h with rfl | ⟨scheme, hscheme, rfl⟩
  · -- what begins with a slash is no scheme
    simp only [cutScheme, List.nil_append]
    split
    · rename_i before after hcut
      have hbefore := (eq_of_cut_eq_some hcut).1
      rw [if_neg]
      · rfl
      · cases before with
        | nil => cases hbefore
        | cons c more =>
          rw [List.cons_append, List.cons.injEq] at hbefore
          rw [isScheme, ← hbefore.1, show ('/' : Char).isAlpha = false by decide, Bool.false_and]
          exact Bool.false_ne_true
    · rfl
  · rw [List.append_assoc, List.singleton_append, cutScheme_append hscheme,
      -- A scheme is cut off at its colon.
      List.dropLast_concat]

/-- The components of the text with a password. -/
theorem ofText_text {password : List Char} (h : IsPassword password) :
    Written.ofText (t.text password) =
      { t.outer with authority := t.userinfo password ++ '@' :: t.outer.authority } := by
  -- Nothing in the user information ends the authority, so it ends where it would without a
  -- password.
  have hend : ∀ c ∈ t.userinfo password ++ ['@'], (!endsAuthority c) = true := by
    intro c hc
    rcases List.mem_append.1 hc with hc | hc
    · rw [t.userinfo_spec h c hc]
      rfl
    · cases List.mem_singleton.1 hc
      decide
  have hsplit : t.userinfo password ++ '@' :: t.rest =
      t.userinfo password ++ ['@'] ++ t.rest := by simp
  have htake : (t.userinfo password ++ '@' :: t.rest).takeWhile (!endsAuthority ·) =
      t.userinfo password ++ '@' :: t.rest.takeWhile (!endsAuthority ·) := by
    rw [hsplit, List.takeWhile_append_of_pos hend]
    simp
  have hdrop : (t.userinfo password ++ '@' :: t.rest).dropWhile (!endsAuthority ·) =
      t.rest.dropWhile (!endsAuthority ·) := by
    rw [hsplit, List.dropWhile_append_of_pos hend]
  simp only [Written.ofText, outer, text, cutScheme_start t.start_spec, cutAuthority, htake, hdrop]

/-- There is no at sign in the rest of the authority. -/
theorem at_not_mem_outer : '@' ∉ t.outer.authority := by
  simp only [outer, Written.ofText, cutScheme_start t.start_spec, cutAuthority]
  exact t.rest_spec

/-- How a text with a password is read. -/
theorem parse_text {password : List Char} (h : IsPassword password) :
    parse (String.ofList (t.text password)) =
      guarded (t.text password) (t.common.map fun u => t.withPassword u password) := by
  have hparts : ofParts (Written.ofText (t.text password))
      (WrittenAuthority.ofText (Written.ofText (t.text password)).authority) =
      t.common.map fun u => t.withPassword u password := by
    -- The text is cut into its components, of which only the user information has the password.
    rw [t.ofText_text h]
    simp only
    rw [ofText_userinfo _ t.at_not_mem_outer]
    exact ofParts_userinfo t.outer _ (by simp [userinfo]) (by simp)
  rw [parse_eq, String.toList_ofList, hparts]

end PasswordText

end Egress.Url
