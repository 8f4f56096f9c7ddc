import Egress.Proofs.Value.Key

/-!
# Digests of equal keys

A key has the digest of its core: the residue of a number depends on its size only, whatever the
type of the number, and a member of an enumeration has the digest of its text. So equal keys that
can be hashed name one entry. A set has one digest however its elements are listed.

## Key results

- `Value.digest_core`: a value has the digest of its core
- `Value.sameKey_iff_eqvItem`: keys that can be hashed name one entry when they are equal
- `Value.digest_set_of_perm`: the order of the elements does not matter to the digest of a set
-/

namespace Egress.Value

/-! ### Sizes of numbers -/

/-- Sizes with one residue are reduced to one number. -/
theorem reduced_congr {m n : Nat} (negative : Bool)
    (h : m % (Nat.pow 2 61 - 1) = n % (Nat.pow 2 61 - 1)) :
    reduced negative m = reduced negative n := by
  unfold reduced
  rw [h]

/-- A size is reduced by its sign, unless it is zero. -/
theorem reduced_sign (negative : Bool) (j : Nat) :
    reduced (decide (Binary64.sign negative * j < 0)) (Binary64.sign negative * j).natAbs =
      reduced negative j := by
  cases negative with
  | false =>
    -- A size that is not below zero is reduced as it is.
    have hnot : ¬Binary64.sign false * (j : Int) < 0 := by simp [Binary64.sign]
    rw [decide_eq_false hnot]
    simp [Binary64.sign]
  | true =>
    have habs : (Binary64.sign true * (j : Int)).natAbs = j := by simp [Binary64.sign]
    rw [habs]
    -- Zero has no sign; any other size is below zero with it.
    by_cases hj : j = 0
    · subst hj
      rfl
    · have hneg : Binary64.sign true * (j : Int) < 0 := by
        simp only [Binary64.sign, if_true]
        omega
      rw [decide_eq_true hneg]

/-- A power of two is one, modulo `2 ^ 61 - 1`, when its exponent is a multiple of 61. -/
theorem two_pow_mod (q : Nat) : Nat.pow 2 (61 * q) % (Nat.pow 2 61 - 1) = 1 := by
  show 2 ^ (61 * q) % (2 ^ 61 - 1) = 1
  rw [Nat.pow_mul, Nat.pow_mod]
  simp

/-- Instead of being divided by a power of two, a size is multiplied by one that makes the exponent
a multiple of 61. -/
theorem mul_two_pow_mod (j c : Nat) :
    j * Nat.pow 2 c * Nat.pow 2 ((61 - c % 61) % 61) % (Nat.pow 2 61 - 1) =
      j % (Nat.pow 2 61 - 1) := by
  obtain ⟨q, hq⟩ : ∃ q, c + (61 - c % 61) % 61 = 61 * q := ⟨(c + 60) / 61, by omega⟩
  have hpow : Nat.pow 2 c * Nat.pow 2 ((61 - c % 61) % 61) = Nat.pow 2 (61 * q) := by
    rw [← hq]
    exact (Nat.pow_add 2 _ _).symm
  rw [Nat.mul_assoc, hpow, Nat.mul_mod, two_pow_mod, Nat.mul_one, Nat.mod_mod]

/-- A floating-point number that is an integer has the digest of the integer. -/
theorem numberDigest_of_toInt? {x : Binary64} {k : Int} (h : x.toInt? = some k) :
    (int k).digest = .ok (numberDigest x) := by
  cases x with
  | finite negative m e =>
    rw [Binary64.toInt?] at h
    rw [digest, numberDigest]
    by_cases he : 0 ≤ e
    -- The value is a multiple of a power of two that is written out.
    · rw [if_pos he] at h ⊢
      obtain rfl := Option.some.inj h
      show Except.ok ("#" ++ toString (reduced (decide (Binary64.sign negative * _ < 0)) _)) = _
      exact congrArg (fun r => Except.ok ("#" ++ toString r)) (reduced_sign negative _)
    · rw [if_neg he] at h ⊢
      obtain ⟨hdvd, h⟩ := Option.ite_none_right_eq_some.1 h
      obtain rfl := Option.some.inj h
      -- The power of two divides the value, so the quotient is reduced to the same number.
      have hm := Nat.div_mul_cancel (Nat.dvd_of_mod_eq_zero hdvd)
      have hmod := mul_two_pow_mod (m / Nat.pow 2 (-e).toNat) (-e).toNat
      rw [hm] at hmod
      have hreduced := (reduced_sign negative _).trans (reduced_congr negative hmod.symm)
      exact congrArg (fun r => Except.ok ("#" ++ toString r)) hreduced
  | infinite => cases h
  | nan => cases h

/-! ### Digests of cores -/

mutual

/-- A value has the digest of its core. -/
theorem digest_core : (v : Value) → {d : String} → v.digest = .ok d → v.core.digest = .ok d
  -- A truth value and a member are their cores up to a constructor.
  | .bool b, d, h => by
    rw [← h]
    cases b <;> rfl
  | .float x, d, h => by
    rcases core_float x with ⟨k, hk, hcore⟩ | ⟨_, hcore⟩
    · rw [hcore, numberDigest_of_toInt? hk, ← h, digest]
    · rw [hcore, h]
  | .member m, d, h => by
    rw [← h, core, digest, digest]
  | .bytes .frozen data, d, h => h
  | .seq .frozen items, d, h => by
    rw [digest] at h
    obtain ⟨ds, hds, rfl⟩ := map_eq_ok.1 h
    rw [core, digest, digests_cores items hds]
    rfl
  | .header name value, d, h => by
    rw [digest] at h
    obtain ⟨n, hn, h⟩ := bind_eq_ok.1 h
    obtain ⟨v, hv, h⟩ := bind_eq_ok.1 h
    rw [core, digest, digest_core name hn, digest_core value hv]
    exact h
  -- What can be changed has no digest.
  | .bytes .mutable _, _, h | .seq .mutable _, _, h => by simp [digest] at h
  | .null, _, h | .int _, _, h | .text _, _, h | .set .., _, h | .map .., _, h | .url _, _, h
  | .ref _, _, h => h

/-- Values have the digests of their cores. -/
theorem digests_cores : (items : List Value) → {ds : List String} → digests items = .ok ds →
    digests (cores items) = .ok ds
  | [], ds, h => h
  | v :: rest, ds, h => by
    rw [digests] at h
    obtain ⟨d, hd, h⟩ := bind_eq_ok.1 h
    obtain ⟨ds', hds, h⟩ := bind_eq_ok.1 h
    rw [cores, digests, digest_core v hd, digests_cores rest hds]
    exact h

end

/-- Keys that can be hashed name one entry exactly when they count as one. -/
theorem sameKey_iff_eqvItem {a b : Value} {d e : String} (ha : a.IsName) (hb : b.IsName)
    (hd : a.digest = .ok d) (he : b.digest = .ok e) :
    sameKey a b = true ↔ eqvItem a b = .ok true := by
  rw [sameKey_iff (ha d hd) (hb e he), eqvItem_iff a b (ha d hd) (hb e he)]
  refine ⟨fun h => h.2, fun hcore => ⟨⟨d, hd, ?_⟩, hcore⟩⟩
  have hde : d = e := by
    have h := digest_core a hd
    rw [hcore, digest_core b he] at h
    exact (Except.ok.inj h).symm
  rw [he, hde]

/-! ### Digests of sets -/

/-- Values have the same digests in another order. -/
theorem digests_perm {items items' : List Value} (h : items.Perm items') {ds : List String}
    (hds : digests items = .ok ds) : ∃ ds', digests items' = .ok ds' ∧ ds.Perm ds' := by
  induction h generalizing ds with
  | nil => exact ⟨ds, hds, .rfl⟩
  -- Each step of the reordering moves the digests as it moves the values.
  | cons v _ ih =>
    rw [digests] at hds
    obtain ⟨d, hd, hds⟩ := bind_eq_ok.1 hds
    obtain ⟨es, hes, hds⟩ := bind_eq_ok.1 hds
    obtain rfl := Except.ok.inj hds
    obtain ⟨es', hes', hperm⟩ := ih hes
    exact ⟨d :: es', by rw [digests, hd, hes']; rfl, hperm.cons d⟩
  | swap v w rest =>
    rw [digests, digests] at hds
    obtain ⟨d, hd, hds⟩ := bind_eq_ok.1 hds
    obtain ⟨es, hes, hds⟩ := bind_eq_ok.1 hds
    obtain rfl := Except.ok.inj hds
    obtain ⟨e, he, hes⟩ := bind_eq_ok.1 hes
    obtain ⟨fs, hfs, hes⟩ := bind_eq_ok.1 hes
    obtain rfl := Except.ok.inj hes
    exact ⟨e :: d :: fs, by rw [digests, digests, hd, he, hfs]; rfl, .swap e d fs⟩
  | trans _ _ ih ih' =>
    obtain ⟨es, hes, hperm⟩ := ih hds
    obtain ⟨fs, hfs, hperm'⟩ := ih' hes
    exact ⟨fs, hfs, hperm.trans hperm'⟩

/-- Sorted texts do not depend on the order in which they were. -/
theorem mergeSort_eq_of_perm {ds ds' : List String} (h : ds.Perm ds') :
    (ds.mergeSort fun a b => decide (a ≤ b)) = ds'.mergeSort fun a b => decide (a ≤ b) := by
  -- The order of texts is total and antisymmetric, so a sorted list is determined by its elements.
  have htrans : ∀ a b c : String,
      decide (a ≤ b) = true → decide (b ≤ c) = true → decide (a ≤ c) = true := by
    simp only [decide_eq_true_eq]
    exact fun _ _ _ => String.le_trans
  have htotal : ∀ a b : String, (decide (a ≤ b) || decide (b ≤ a)) = true := by
    simp only [Bool.or_eq_true, decide_eq_true_eq]
    exact String.le_total
  have hantisymm : ∀ a b : String, decide (a ≤ b) = true → decide (b ≤ a) = true → a = b := by
    simp only [decide_eq_true_eq]
    exact fun _ _ => String.le_antisymm
  apply List.Perm.eq_of_pairwise fun a b _ _ => hantisymm a b
  · exact List.pairwise_mergeSort htrans htotal ds
  · exact List.pairwise_mergeSort htrans htotal ds'
  · exact (List.mergeSort_perm ds _).trans (h.trans (List.mergeSort_perm ds' _).symm)

/-- A set has one digest, in whatever order its elements are listed. -/
theorem digest_set_of_perm {items items' : List Value} {d : String} (h : items.Perm items')
    (hd : (set .frozen items).digest = .ok d) : (set .frozen items').digest = .ok d := by
  rw [digest] at hd ⊢
  obtain ⟨ds, hds, rfl⟩ := map_eq_ok.1 hd
  obtain ⟨ds', hds', hperm⟩ := digests_perm h hds
  rw [hds', mergeSort_eq_of_perm hperm]
  rfl

end Egress.Value
