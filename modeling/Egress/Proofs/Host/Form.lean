import Egress.Proofs.Host.Normal

/-!
# What a host is written for

The normal form of a host differs from the host as it is written in four ways only: an IPv6 address
loses its brackets, a name is in lower case, the characters of an ASCII name that no host may hold
are percent-encoded, and a name outside ASCII is in its ASCII form. Reading a host does just that.
A host with an at sign in it has a normal form with an escape in it or none at all, so it is not
the host of what follows the at sign.

## Key results

- `IsFormOf`: the normal forms of a written host
- `isFormOf_normalHost`: a host that is read is in such a form
- `IsFormOf.no_at`: what follows an at sign has another form
-/

namespace Egress.Host

open Egress.Text Egress.Url

/-- A host in the normal form of a written host. -/
inductive IsFormOf (written host : List Char) : Prop where
  -- An IPv6 address, without its brackets.
  | address (brackets : written = '[' :: host ++ [']']) (valid : isIpv6 host = true)
  -- An ASCII name in lower case, with the characters encoded that no host may hold.
  | name (ascii : ∀ c ∈ written, c.toNat < 0x80)
    (escaped : host = encode hostSafe (written.map Char.toLower))
  -- The ASCII form of any other name, in lower case.
  | international (outside : ∃ c ∈ written, 0x80 ≤ c.toNat)
    (encoded : toAscii (lower written) = .ok host)

/-- An IPv4 address is a name. -/
private theorem isFormOf_ipv4 {written : List Char} (h : isIpv4 written = true) :
    IsFormOf written written := by
  have hone : ∀ c ∈ written, c.toNat < 0x80 ∧ hostSafe c = true := by
    intro c hc
    rcases mem_of_isIpv4 h hc with hdigit | rfl
    · have hbounds := Number.isDigit_iff.1 hdigit
      have hsafe : hostSafe c = true := by
        have halnum : c.isAlphanum = true := isAlphanum_iff.2 (.inl hbounds)
        simp [hostSafe, isUnreserved, halnum]
      exact ⟨by omega, hsafe⟩
    · decide
  refine .name (fun c hc => (hone c hc).1) ?_
  rw [map_toLower_of_isIpv4 h, encode_of_all fun c hc => (hone c hc).2]

/-- A text from a bracket to a bracket consists of these and what is between them. -/
private theorem eq_of_brackets {s : List Char} (hhead : s.head? = some '[')
    (hlast : s.getLast? = some ']') : s = '[' :: (s.drop 1).dropLast ++ [']'] := by
  obtain ⟨rest, rfl⟩ := List.head?_eq_some_iff.1 hhead
  cases rest with
  | nil => cases hlast
  | cons c more =>
    rw [List.getLast?_cons_cons] at hlast
    obtain ⟨inner, hinner⟩ := List.getLast?_eq_some_iff.1 hlast
    rw [hinner]
    simp

/-- A host that is read is in the normal form of what was written. -/
theorem isFormOf_normalHost {written host : List Char} (h : normalHost written = .ok host) :
    IsFormOf written host := by
  rw [normalHost] at h
  -- An empty host, one that looks like an IPv4 address, one in brackets, an ASCII name, and any
  -- other name.
  split at h
  · rename_i hempty
    cases h
    subst hempty
    exact .name (by simp) rfl
  · split at h
    · split at h
      · rename_i hipv4
        cases h
        exact isFormOf_ipv4 hipv4
      · cases h
    · split at h
      · rename_i hbrackets
        simp only at h
        split at h
        · rename_i hipv6
          cases h
          exact .address (eq_of_brackets hbrackets.1 hbrackets.2) hipv6
        · cases h
      · split at h
        · rename_i hascii
          cases h
          exact .name (by simpa using hascii) rfl
        · rename_i houtside
          obtain ⟨_, h⟩ := guard_eq_ok.1 h
          split at h
          · rename_i name hname
            cases h
            exact .international (by simpa using houtside) hname
          · cases h

/-- Encoding makes no text shorter. -/
theorem length_le_length_encode (safe : Char → Bool) (s : List Char) :
    s.length ≤ (encode safe s).length := by
  induction s with
  | nil => exact Nat.le_refl 0
  | cons c rest ih =>
    have hone : 0 < (encode safe [c]).length := by
      rw [List.length_pos_iff]
      intro hnil
      cases encode_eq_nil.1 hnil
    rw [encode_cons, List.length_append, List.length_cons]
    omega

/-- The form of what follows an at sign is shorter than the form of the whole, which holds an
escape for the at sign. So no host has both forms. -/
theorem IsFormOf.no_at {user written host whole : List Char} (h : IsFormOf written host)
    (hlength : whole.length = host.length) (hat : '@' ∉ whole) :
    ¬IsFormOf (user ++ '@' :: written) whole := by
  intro hwhole
  -- By the form of the whole: brackets and international names would keep the at sign, and an
  -- escaped name is longer.
  cases hwhole with
  | address brackets valid =>
    have hmem : '@' ∈ '[' :: whole ++ [']'] := by
      rw [← brackets]
      simp
    simp [hat] at hmem
  | name ascii escaped =>
    have hrest : host.length ≤ (encode hostSafe (written.map Char.toLower)).length := by
      cases h with
      | address brackets valid =>
        have hbrackets : written.length = host.length + 2 := by simp [brackets]
        have hshort := length_le_length_encode hostSafe (written.map Char.toLower)
        rw [List.length_map] at hshort
        omega
      | name _ escaped => exact Nat.le_of_eq (by rw [escaped])
      | international outside encoded =>
        obtain ⟨c, hc, hlarge⟩ := outside
        have hsmall := ascii c (by simp [hc])
        omega
    -- The at sign is written by three characters.
    have hsplit : encode hostSafe ((user ++ '@' :: written).map Char.toLower) =
        encode hostSafe (user.map Char.toLower) ++
          (['%', '4', '0'] ++ encode hostSafe (written.map Char.toLower)) := by
      rw [List.map_append, List.map_cons, encode_append]
      rfl
    have hlong := congrArg List.length escaped
    rw [hsplit, List.length_append, List.length_append] at hlong
    simp only [List.length_cons, List.length_nil] at hlong
    omega
  | international outside encoded =>
    have hmem : '@'.toLower ∈ lower (user ++ '@' :: written) :=
      toLower_mem_lower (by simp) (by decide)
    rcases mem_of_toAscii encoded hmem (by decide) with hlabel | hdot
    · revert hlabel
      decide
    · revert hdot
      decide

end Egress.Host
