import Egress.Proofs.Host.Normal
import Egress.Proofs.Url.Path

/-!
# URLs in normal form

Whatever text a URL is read from, its components are in normal form: a scheme in lower case,
components of safe characters only, a host in normal form, a port that is not too long, and, where
there is a host, an absolute path without dot segments.

## Key results

- `Url.Normal`: the invariant of URLs
- `normal_ofParts`: components that are plainly written make a URL in normal form
- `parse_normal`: every URL that is read is in normal form
-/

namespace Egress.Url

open Egress.Text Egress.Host

/-- The invariant of URLs. -/
structure Normal (u : Url) : Prop where
  scheme : isScheme u.scheme.toList = true
  lowerScheme : u.scheme.toList.map Char.toLower = u.scheme.toList
  userinfo : ∀ c ∈ u.userinfo.toList, userinfoSafe c = true
  host : NormalHost u.host.toList
  -- The port is not too long.
  port : ∀ n, u.port = some n → n.natAbs < Number.digitBound
  path : ∀ c ∈ u.path.toList, pathSafe c = true
  -- The path after a host is empty or absolute.
  rooted : u.host ≠ "" → u.path.toList = [] ∨ u.path.toList.head? = some '/'
  resolved : u.host ≠ "" → normalPath u.path.toList = u.path.toList
  query : ∀ q, u.query = some q → ∀ c ∈ q.toList, querySafe c = true
  fragment : ∀ f, u.fragment = some f → ∀ c ∈ f.toList, fragmentSafe c = true

/-! ### Components -/

/-- An ASCII character in lower case is in lower case, and it is a letter or digit if it was. -/
private theorem ascii_toLower {c : Char} (h : c.toNat < 0x80) :
    c.toLower.toLower = c.toLower ∧ c.toLower.isAlpha = c.isAlpha ∧
      c.toLower.isAlphanum = c.isAlphanum :=
  of_ascii (P := fun c => c.toLower.toLower = c.toLower ∧ c.toLower.isAlpha = c.isAlpha ∧
    c.toLower.isAlphanum = c.isAlphanum) (by decide +kernel) h

/-- The characters of a scheme are ASCII: letters, digits and three marks. -/
theorem mem_of_isScheme {s : List Char} (h : isScheme s = true) {c : Char} (hc : c ∈ s) :
    c.isAlphanum = true ∨ c ∈ ['+', '.', '-'] := by
  cases s with
  | nil => cases hc
  | cons first rest =>
    simp only [isScheme, Bool.and_eq_true, List.all_eq_true] at h
    rcases List.mem_cons.1 hc with rfl | hc
    -- The first character is a letter; the others may be digits and marks, too.
    · exact .inl (by simp [Char.isAlphanum, h.1])
    · have := h.2 c hc
      simp only [Bool.or_eq_true, decide_eq_true_eq] at this
      rcases this with ((this | this) | this) | this
      · exact .inl this
      all_goals exact .inr (by simp [this])

/-- The characters of a scheme are printable ASCII. -/
theorem ascii_of_isScheme {s : List Char} (h : isScheme s = true) {c : Char} (hc : c ∈ s) :
    0x20 ≤ c.toNat ∧ c.toNat < 0x7F := by
  rcases mem_of_isScheme h hc with hc | hc
  · have := isAlphanum_iff.1 hc
    omega
  · simp only [List.mem_cons, List.not_mem_nil, or_false] at hc
    rcases hc with rfl | rfl | rfl <;> decide

/-- A scheme in small letters is a scheme. -/
theorem isScheme_toLower {s : List Char} (h : isScheme s = true) :
    isScheme (s.map Char.toLower) = true := by
  have hascii : ∀ c ∈ s, c.toNat < 0x80 := fun c hc => by
    have := ascii_of_isScheme h hc
    omega
  cases s with
  | nil => rfl
  | cons first rest =>
    simp only [isScheme, List.map_cons, Bool.and_eq_true, List.all_eq_true] at h ⊢
    refine ⟨?_, ?_⟩
    · rw [(ascii_toLower (hascii first (by simp))).2.1]
      exact h.1
    · intro c hc
      obtain ⟨d, hd, rfl⟩ := List.mem_map.1 hc
      have ⟨_, _, halnum⟩ := ascii_toLower (hascii d (by simp [hd]))
      have hone := h.2 d hd
      simp only [Bool.or_eq_true, decide_eq_true_eq] at hone ⊢
      -- The punctuation of a scheme has no capital form.
      rcases hone with ((hone | rfl) | rfl) | rfl
      · exact .inl (.inl (.inl (halnum ▸ hone)))
      all_goals decide

/-- Lower case is lower case already. -/
private theorem toLower_toLower_of_isScheme {s : List Char} (h : isScheme s = true) :
    (s.map Char.toLower).map Char.toLower = s.map Char.toLower := by
  rw [List.map_map]
  refine List.map_congr_left fun c hc => ?_
  have := ascii_of_isScheme h hc
  exact (ascii_toLower (by omega)).1

/-- The normal form of a port is not too long. -/
theorem normalPort_lt {port scheme : List Char} {n : Int}
    (h : normalPort port scheme = .ok (some n)) : n.natAbs < Number.digitBound := by
  simp only [normalPort] at h
  split at h
  -- A missing or usual port leaves none, and any other one was read from a text.
  · cases h
  · split at h
    · rename_i m hm
      split at h
      · cases h
      · cases h
        exact Number.natAbs_lt_of_readInt hm
    · cases h

/-! ### Reading -/

/-- Components that are plainly written make a URL in normal form. -/
theorem normal_ofParts {w : Written} {a : WrittenAuthority} {u : Url}
    (hscheme : isScheme w.scheme = true) (hhost : ∀ c ∈ a.host, IsHostCharacter c)
    (h : ofParts w a = .ok u) : u.Normal := by
  obtain ⟨host, hh, h⟩ := bind_eq_ok.1 h
  obtain ⟨port, hp, h⟩ := bind_eq_ok.1 h
  obtain ⟨_, hpath, h⟩ := bind_eq_ok.1 h
  cases h
  constructor
  -- One case per condition of the normal form, in its order.
  · rw [String.toList_ofList]
    exact isScheme_toLower hscheme
  · rw [String.toList_ofList]
    exact toLower_toLower_of_isScheme hscheme
  · intro c hc
    exact safe_of_mem_encode userinfoSafe_escapes (by simpa using hc)
  · simpa using normalHost_normal hhost hh
  · rintro n rfl
    exact normalPort_lt hp
  · intro c hc
    exact safe_of_mem_encode pathSafe_escapes (by simpa using hc)
  · intro hne
    have hhost : host ≠ [] := fun hnil => hne (by simp [hnil])
    simp only [checkPath] at hpath
    obtain ⟨hrooted, _⟩ := guard_eq_ok.1 hpath
    simp only [String.toList_ofList, hhost, ne_eq, not_false_eq_true, decide_true, Bool.or_true,
      Bool.true_or, if_true]
    cases hw : w.path with
    | nil => exact .inl rfl
    | cons c rest =>
      have hc : c = '/' := by
        -- A path beside a host must begin with a slash, or the text would have been refused.
        refine Classical.byContradiction fun hc => hrooted ⟨by simp [hhost], by simp [hw], ?_⟩
        simpa [hw] using hc
      subst hc
      rcases normalPath_rooted rest with hn | hn
      · rw [hn]
        exact .inl rfl
      · cases hcase : normalPath ('/' :: rest) with
        | nil => exact .inl rfl
        | cons d more =>
          rw [hcase] at hn
          cases hn
          exact .inr rfl
  · intro hne
    have hhost : host ≠ [] := fun hnil => hne (by simp [hnil])
    simp only [String.toList_ofList, hhost, ne_eq, not_false_eq_true, decide_true, Bool.or_true,
      Bool.true_or, if_true]
    exact normalPath_encode w.path
  · rintro q hq c hc
    obtain ⟨raw, _, rfl⟩ := Option.map_eq_some_iff.1 hq
    exact safe_of_mem_encode querySafe_escapes (by simpa using hc)
  · rintro f hf c hc
    obtain ⟨raw, _, rfl⟩ := Option.map_eq_some_iff.1 hf
    exact safe_of_mem_encode fragmentSafe_escapes (by simpa using hc)

/-- What is read as the scheme of a text is a scheme. -/
theorem isScheme_ofText (s : List Char) : isScheme (Written.ofText s).scheme = true := by
  simp only [Written.ofText, cutScheme]
  split
  · split
    · rename_i hscheme
      exact hscheme
    · rfl
  · rfl

/-- The authority of a text consists of characters of the text, and nothing in it ends it. -/
theorem mem_authority_ofText {s : List Char} {c : Char} (h : c ∈ (Written.ofText s).authority) :
    c ∈ s ∧ endsAuthority c = false := by
  -- Neither cutting off the scheme nor the authority brings in a character.
  have hrest : ∀ {d}, d ∈ (cutScheme s).2 → d ∈ s := by
    intro d hd
    simp only [cutScheme] at hd
    split at hd
    · rename_i hcut
      split at hd
      · rw [(eq_of_cut_eq_some hcut).1]
        exact List.mem_append.2 (.inr (List.mem_cons_of_mem _ hd))
      · exact hd
    · exact hd
  have hcut : ∀ t, c ∈ (cutAuthority t).1 → c ∈ t ∧ endsAuthority c = false := by
    intro t ht
    simp only [cutAuthority] at ht
    split at ht
    · refine ⟨?_, by simpa using List.all_eq_true.1 List.all_takeWhile c ht⟩
      exact List.mem_cons_of_mem _ (List.mem_cons_of_mem _ (List.takeWhile_subset _ ht))
    · cases ht
  have ⟨hmem, hend⟩ := hcut _ h
  exact ⟨hrest hmem, hend⟩

/-- The host of an authority consists of characters of the authority, without the at sign. -/
theorem mem_host_ofText {s : List Char} {c : Char} (h : c ∈ (WrittenAuthority.ofText s).host) :
    c ∈ s ∧ c ≠ '@' := by
  -- what follows the last at sign
  have hrest : ∀ {d}, d ∈ ((cutLast '@' s).getD ([], s)).2 → d ∈ s ∧ d ≠ '@' := by
    intro d hd
    cases hcut : cutLast '@' s with
    | none =>
      rw [hcut] at hd
      refine ⟨hd, ?_⟩
      rintro rfl
      exact cutLast_eq_none.1 hcut hd
    | some parts =>
      rw [hcut] at hd
      obtain ⟨heq, hno⟩ := eq_of_cutLast_eq_some hcut
      refine ⟨?_, ?_⟩
      · rw [heq]
        exact List.mem_append.2 (.inr (List.mem_cons_of_mem _ hd))
      · rintro rfl
        exact hno hd
  simp only [WrittenAuthority.ofText] at h
  split at h
  · rename_i hcut
    obtain ⟨hs, _⟩ := eq_of_cutLast_eq_some hcut
    refine hrest ?_
    rw [hs]
    simp only [List.mem_append, List.mem_singleton] at h
    rcases h with h | rfl
    · exact List.mem_append.2 (.inl h)
    · simp
  · exact hrest (List.takeWhile_subset _ h)

/-- A reading that is made only of texts that are not too long and hold no control character. -/
def guarded (s : List Char) (x : Except UrlError Url) : Except UrlError Url :=
  if maxLength < s.length then .error .tooLong
  else match s.findIdx? isControl with
    | some i => .error (.controlCharacter (s.getD i ' ') i)
    | none => x

/-- A text is read by its components. -/
theorem parse_eq (s : String) : parse s = guarded s.toList (ofParts (Written.ofText s.toList)
    (WrittenAuthority.ofText (Written.ofText s.toList).authority)) := rfl

/-- A guarded reading succeeds if the text passes and the reading succeeds. -/
theorem guarded_eq_ok {s : List Char} {x : Except UrlError Url} {u : Url} :
    guarded s x = .ok u ↔
      s.length ≤ maxLength ∧ (∀ c ∈ s, isControl c = false) ∧ x = .ok u := by
  rw [guarded, guard_eq_ok, Nat.not_lt, ← List.findIdx?_eq_none_iff]
  cases s.findIdx? isControl with
  | some i => simp
  | none => simp

/-- Every URL that is read from a text is in normal form. -/
theorem parse_normal {s : String} {u : Url} (h : parse s = .ok u) : u.Normal := by
  rw [parse_eq, guarded_eq_ok] at h
  obtain ⟨_, hcontrol, h⟩ := h
  refine normal_ofParts (isScheme_ofText _) (fun c hc => ?_) h
  obtain ⟨hauthority, hat⟩ := mem_host_ofText hc
  obtain ⟨htext, hend⟩ := mem_authority_ofText hauthority
  exact ⟨hcontrol c htext, hend, hat⟩

end Egress.Url
