import Egress.Proofs.Proxy.Observer
import Egress.Proofs.Text.Quoted

/-!
# The wording of errors about addresses

An address that is rejected is quoted as it was given. A password in it stands in the quoted text
as it is, so errors about different passwords are worded differently, and no other error is worded
like them.

## Key results

- `password_eq_of_message`: the wording determines the password
- `not_looksLike_of_rejected`: a rejected address tells its password from any other
-/

namespace Egress.ProxyConfiguration

open Egress.Text Egress.Url

/-- An error that quotes an address. -/
inductive Quotes (raw : String) : ProxyError → Prop where
  | invalid (e : UrlError) : Quotes raw (.invalidUri raw e)
  -- The address is not the address of a proxy.
  | notAbsolute : Quotes raw (.notAbsolute raw)

/-- An address that is rejected is quoted. -/
theorem quotes_of_readAddress {raw : String} {e : ProxyError}
    (h : readAddress raw = .error (.proxy e)) : Quotes raw e := by
  rw [readAddress] at h
  -- Of the ways in which reading ends, three are errors of proxies, and these quote the text.
  split at h
  · cases h
    exact .invalid _
  · split at h
    · cases h
      exact .notAbsolute
    · split at h
      · cases h
      · split at h
        · cases h
          exact .notAbsolute
        · cases h

/-- What is derived from an accepted address fails with a `ProxyError` only where a property cannot
be read. -/
theorem unreadable_of_finish {p : Properties} {u : Url} {e : ProxyError}
    (h : finish p u = .error (.proxy e)) : ∃ f, e = .unreadable f := by
  -- A property that cannot be read has its own error.
  have hread : ∀ key, readText p key = .error (.proxy e) → ∃ f, e = .unreadable f := by
    intro key hkey
    rw [readText] at hkey
    split at hkey
    · cases hkey
    · cases hkey
      exact ⟨_, rfl⟩
  rw [finish] at h
  cases hcredentials : credentialsFor p u with
  | error f =>
    rw [hcredentials] at h
    cases h
    simp only [credentialsFor, bind, Except.bind, pure, Except.pure] at hcredentials
    split at hcredentials
    · rename_i huser
      cases hcredentials
      exact hread _ huser
    · split at hcredentials
      · split at hcredentials
        · rename_i hpassword
          cases hcredentials
          exact hread _ hpassword
        · cases hcredentials
      · split at hcredentials <;> cases hcredentials
  | ok k =>
    rw [hcredentials] at h
    -- Taking the user information away fails with errors of URLs only.
    simp only [Except.bind, stripped] at h
    split at h
    · rename_i hstripped
      cases h
      split at hstripped
      · cases hstripped
      · split at hstripped <;> cases hstripped
    · cases h

/-- The wording of an error about an address that is no URL. -/
theorem toList_message_invalidUri (raw : String) (e : UrlError) :
    (ProxyError.invalidUri raw e).message.toList =
      "Invalid proxy URI ".toList ++ ((quoted raw).toList ++ (": " ++ e.message).toList) := by
  have hmessage : (ProxyError.invalidUri raw e).message =
      "Invalid proxy URI " ++ quoted raw ++ ": " ++ e.message := rfl
  rw [hmessage, String.append_assoc, String.append_assoc, String.toList_append,
    String.toList_append]

/-- The wording of an error about an address that is not the address of a proxy. -/
theorem toList_message_notAbsolute (raw : String) :
    (ProxyError.notAbsolute raw).message.toList =
      "Proxy URI must be an absolute http(s) URI: ".toList ++ (quoted raw).toList := by
  have hmessage : (ProxyError.notAbsolute raw).message =
      "Proxy URI must be an absolute http(s) URI: " ++ quoted raw := rfl
  rw [hmessage, String.toList_append]

/-- The wording of an error about a property that cannot be read. -/
theorem toList_message_unreadable (e : PropertyError) : ∃ rest,
    (ProxyError.unreadable e).message.toList = "Property ".toList ++ rest := by
  have hmessage : (ProxyError.unreadable e).message = "Property " ++ quoted e.key.name ++
      " cannot be read as " ++ e.key.type.word ++ ": " ++ e.fault.message := rfl
  rw [hmessage]
  simp only [String.append_assoc]
  exact ⟨_, String.toList_append⟩

/-- An unreserved character is written as itself. -/
theorem standsForItself_of_isUnreserved {c : Char} (h : isUnreserved c = true) :
    StandsForItself c := by
  obtain ⟨hlt, hsingle, hdouble, hback, hvisible⟩ :=
    of_isUnreserved (P := fun c => c.toNat < 0x7F ∧ c.toNat ≠ 39 ∧ c.toNat ≠ 34 ∧ c.toNat ≠ 92 ∧
      32 ≤ c.toNat) (by decide +kernel) h
  refine ⟨?_, hsingle, hdouble, hback, hvisible⟩
  rw [isPrintable_of_lt hlt]
  exact decide_eq_true hvisible

/-- Errors that quote addresses with different passwords have different wordings. -/
theorem password_eq_of_message {t : PasswordText} {x y : List Char} (hx : IsPassword x)
    (hy : IsPassword y) {e f : ProxyError} (he : Quotes (String.ofList (t.text x)) e)
    (hf : Quotes (String.ofList (t.text y)) f) (h : e.message = f.message) : x = y := by
  have htext : ∀ z, t.text z = t.start ++ '/' :: '/' :: (t.user ++ [':']) ++ z ++
      '@' :: t.rest := by
    intro z
    simp [PasswordText.text, PasswordText.userinfo]
  have hat : ∀ {z : List Char}, IsPassword z → '@' ∉ z := fun hz hmem =>
    (isUnreserved_spec (hz.unreserved _ hmem)).2.1 rfl
  have hplain : ∀ {z : List Char}, IsPassword z → ∀ c ∈ z, StandsForItself c := fun hz c hc =>
    standsForItself_of_isUnreserved (hz.unreserved c hc)
  -- after the same words, the wordings go on with the quoted addresses
  have hquoted : ∀ s s' : List Char, (quoted (String.ofList (t.text x))).toList ++ s =
      (quoted (String.ofList (t.text y))).toList ++ s' → x = y := by
    intro s s' hq
    rw [htext x, htext y] at hq
    exact eq_of_quoted_append (hplain hx) (hplain hy) (hat hx) (hat hy) hq
  have hlist := congrArg String.toList h
  cases he with
  | invalid e =>
    rw [toList_message_invalidUri] at hlist
    cases hf with
    | invalid f =>
      rw [toList_message_invalidUri] at hlist
      exact hquoted _ _ (List.append_cancel_left hlist)
    | notAbsolute =>
      rw [toList_message_notAbsolute] at hlist
      exact absurd hlist (append_ne_append 1 (by decide) (by decide) (by decide) _ _)
  | notAbsolute =>
    rw [toList_message_notAbsolute] at hlist
    cases hf with
    | invalid f =>
      rw [toList_message_invalidUri] at hlist
      exact absurd hlist (append_ne_append 1 (by decide) (by decide) (by decide) _ _)
    | notAbsolute =>
      rw [toList_message_notAbsolute] at hlist
      refine hquoted [] [] ?_
      rw [List.append_nil, List.append_nil]
      exact List.append_cancel_left hlist

/-- An error that quotes an address is not worded like one about a property. -/
theorem message_ne_unreadable {raw : String} {e : ProxyError} (he : Quotes raw e)
    (f : PropertyError) : e.message ≠ (ProxyError.unreadable f).message := by
  intro h
  -- The two messages begin differently, which their first characters show.
  have hlist := congrArg String.toList h
  obtain ⟨rest, hrest⟩ := toList_message_unreadable f
  rw [hrest] at hlist
  cases he with
  | invalid e =>
    rw [toList_message_invalidUri] at hlist
    exact absurd hlist (append_ne_append 1 (by decide) (by decide) (by decide) _ _)
  | notAbsolute =>
    rw [toList_message_notAbsolute] at hlist
    exact absurd hlist (append_ne_append 4 (by decide) (by decide) (by decide) _ _)

/-- A rejected address tells its password from any other. -/
theorem not_looksLike_of_rejected {p q : Properties} {t : PasswordText} {x y : List Char}
    (hx : IsPassword x) (hy : IsPassword y) (hne : x ≠ y)
    (h : Rejected (String.ofList (t.text x))) :
    ¬LooksLike ((readAddress (String.ofList (t.text x))).bind (finish p))
      ((readAddress (String.ofList (t.text y))).bind (finish q)) := by
  obtain ⟨e, he⟩ := h
  have hquotes := quotes_of_readAddress he
  rw [he]
  intro hlike
  have hseen : Seen.error .configuration e.message =
      seen ((readAddress (String.ofList (t.text y))).bind (finish q)) := hlike.seen
  -- the other outcome is an error of the same class
  cases hother : (readAddress (String.ofList (t.text y))).bind (finish q) with
  | ok found =>
    rw [hother] at hseen
    cases found <;> cases hseen
  | error f =>
    rw [hother] at hseen
    simp only [seen, Seen.error.injEq] at hseen
    obtain ⟨hclass, hmessage⟩ := hseen
    cases f with
    | proxy f =>
      cases hread : readAddress (String.ofList (t.text y)) with
      | error g =>
        rw [hread] at hother
        cases hother
        exact hne (password_eq_of_message hx hy hquotes (quotes_of_readAddress hread) hmessage)
      | ok v =>
        rw [hread] at hother
        obtain ⟨g, rfl⟩ := unreadable_of_finish hother
        exact message_ne_unreadable hquotes g hmessage
    | hostName f => cases f <;> cases hclass
    | url f => cases hclass
    | portDigits => cases hclass

end Egress.ProxyConfiguration
