import Egress.Number.Binary64

/-!
# Sizes of floating-point numbers

A size has one floating-point number only, up to the sign of zero. So equality of floating-point
numbers, which compares sign, mantissa and exponent, is equality of sizes.

## Key results

- `Binary64.isCanonical`: the numbers of the format
- `Binary64.eq_of_toInt?_eq`: numbers that are the same integer are equal
- `Binary64.toInt?_eq_of_eq`: equal numbers are the same integer, or none
-/

namespace Egress.Binary64

/-- Whether a number is one of the format: the mantissa is below `2 ^ 53`, and at least `2 ^ 52`
unless the exponent is the least. What is not a number carries a payload. -/
def isCanonical : Binary64 → Bool
  | finite _ m e => m < Nat.pow 2 53 && -1074 ≤ e && (Nat.pow 2 52 ≤ m || e = -1074)
  | infinite _ => true
  | nan payload => payload ≠ 0

/-- A factor of one for each sign. -/
def sign (negative : Bool) : Int := if negative then -1 else 1

/-- A sign is one or minus one. -/
theorem sign_ne_zero (negative : Bool) : sign negative ≠ 0 := by cases negative <;> decide

/-- A power of two with a sum for its exponent is a product. -/
private theorem two_pow_add (a b : Nat) : Nat.pow 2 (a + b) = Nat.pow 2 a * Nat.pow 2 b :=
  Nat.pow_add 2 a b

/-- A finite number that is an integer, counted in units of a power of two below its exponent. -/
theorem exists_of_toInt? {negative : Bool} {m c : Nat} {e k : Int} (he : -(c : Int) ≤ e)
    (h : (finite negative m e).toInt? = some k) :
    ∃ j : Nat, k = sign negative * j ∧ m * Nat.pow 2 (e + c).toNat = j * Nat.pow 2 c := by
  -- A number without a fraction is scaled up; one with a fraction is an integer if the fraction is
  -- empty.
  simp only [toInt?] at h
  split at h
  · cases h
    have hexponent : (e + c).toNat = e.toNat + c := by omega
    refine ⟨m * Nat.pow 2 e.toNat, rfl, ?_⟩
    rw [hexponent, two_pow_add, Nat.mul_assoc]
  · obtain ⟨hdvd, h⟩ := Option.ite_none_right_eq_some.1 h
    cases h
    have hexponent : (-e).toNat + (e + c).toNat = c := by omega
    have hsplit : Nat.pow 2 c = Nat.pow 2 (-e).toNat * Nat.pow 2 (e + c).toNat := by
      rw [← two_pow_add, hexponent]
    refine ⟨m / Nat.pow 2 (-e).toNat, rfl, ?_⟩
    rw [hsplit, ← Nat.mul_assoc, Nat.div_mul_cancel (Nat.dvd_of_mod_eq_zero hdvd)]

/-- Of two numbers of one size, the one with the lower exponent has a mantissa twice as large. -/
private theorem two_mul_le_of_lt {m n a b : Nat} (h : m * Nat.pow 2 a = n * Nat.pow 2 b)
    (hlt : a < b) : 2 * n ≤ m := by
  obtain ⟨d, rfl⟩ := Nat.exists_eq_add_of_lt hlt
  have hpos : 0 < Nat.pow 2 a := Nat.two_pow_pos a
  have hone : Nat.pow 2 1 = 2 := rfl
  -- The mantissa is the other one times a power of two with a positive exponent.
  have hm : m = Nat.pow 2 d * (2 * n) := by
    refine Nat.eq_of_mul_eq_mul_right hpos (h.trans ?_)
    rw [show a + d + 1 = d + (1 + a) by omega, two_pow_add, two_pow_add, hone]
    ac_rfl
  rw [hm]
  exact Nat.le_mul_of_pos_left _ (Nat.two_pow_pos d)

/-- A power of two is not zero, so what it takes to zero is. -/
private theorem eq_zero_of_mul_two_pow {m a : Nat} (h : m * Nat.pow 2 a = 0) : m = 0 :=
  (Nat.mul_eq_zero.1 h).resolve_right (Nat.ne_of_gt (Nat.two_pow_pos a))

/-- A size has one mantissa and one exponent in the format. -/
private theorem eq_of_mul_eq {m n a b : Nat} (hm : m < Nat.pow 2 53) (hn : n < Nat.pow 2 53)
    (ha : Nat.pow 2 52 ≤ m ∨ a = 0) (hb : Nat.pow 2 52 ≤ n ∨ b = 0)
    (h : m * Nat.pow 2 a = n * Nat.pow 2 b) : m = n ∧ a = b := by
  have hdouble : Nat.pow 2 53 = 2 * Nat.pow 2 52 := rfl
  -- A larger exponent would push the mantissa out of its range on one side.
  have hab : a = b := by
    rcases Nat.lt_trichotomy a b with hlt | heq | hlt
    · have := two_mul_le_of_lt h hlt
      omega
    · exact heq
    · have := two_mul_le_of_lt h.symm hlt
      omega
  subst hab
  exact ⟨Nat.eq_of_mul_eq_mul_right (Nat.two_pow_pos a) h, rfl⟩

/-- Numbers that are the same integer are equal. -/
theorem eq_of_toInt?_eq {x y : Binary64} {k : Int} (hx : x.isCanonical = true)
    (hy : y.isCanonical = true) (hxk : x.toInt? = some k) (hyk : y.toInt? = some k) :
    x.eq y = true := by
  cases x with
  | infinite => cases hxk
  | nan => cases hxk
  | finite negative m e =>
    cases y with
    | infinite => cases hyk
    | nan => cases hyk
    | finite negative' n f =>
      -- Both numbers are counted in the smallest unit, where equal integers have equal counts.
      simp only [isCanonical, Bool.and_eq_true, Bool.or_eq_true, decide_eq_true_eq] at hx hy
      obtain ⟨⟨hm, he⟩, hme⟩ := hx
      obtain ⟨⟨hn, hf⟩, hnf⟩ := hy
      obtain ⟨j, hj, hmj⟩ := exists_of_toInt? (c := 1074) he hxk
      obtain ⟨i, hi, hni⟩ := exists_of_toInt? (c := 1074) hf hyk
      by_cases hzero : k = 0
      · -- both zeros, perhaps of different signs
        have hj0 : j = 0 := by
          have := (Int.mul_eq_zero.1 (hj ▸ hzero)).resolve_left (sign_ne_zero _)
          omega
        have hi0 : i = 0 := by
          have := (Int.mul_eq_zero.1 (hi ▸ hzero)).resolve_left (sign_ne_zero _)
          omega
        have hm0 := eq_zero_of_mul_two_pow (hmj.trans (Nat.mul_eq_zero.2 (.inl hj0)))
        have hn0 := eq_zero_of_mul_two_pow (hni.trans (Nat.mul_eq_zero.2 (.inl hi0)))
        rw [Binary64.eq, hm0, hn0]
        rfl
      -- The integer has one sign and one size.
      · have hsame : negative = negative' ∧ j = i := by
          cases negative <;> cases negative' <;> simp [sign] at hj hi ⊢ <;> omega
        obtain ⟨rfl, rfl⟩ := hsame
        obtain ⟨rfl, hexponent⟩ := eq_of_mul_eq hm hn (hme.imp_right fun h => by omega)
          (hnf.imp_right fun h => by omega) (hmj.trans hni.symm)
        have : e = f := by omega
        simp [Binary64.eq, this]

/-- Both zeros are the integer zero. -/
theorem toInt?_zero (negative : Bool) (e : Int) : (finite negative 0 e).toInt? = some 0 := by
  simp [toInt?]

/-- Equal numbers are the same integer, or none. -/
theorem toInt?_eq_of_eq {x y : Binary64} (h : x.eq y = true) : x.toInt? = y.toInt? := by
  cases x with
  | nan => cases h
  | infinite => cases y <;> first | rfl | cases h
  | finite negative m e =>
    cases y with
    | nan => cases h
    | infinite => cases h
    | finite negative' n f =>
      simp only [Binary64.eq, Bool.or_eq_true, Bool.and_eq_true, beq_iff_eq] at h
      -- Two zeros are equal whatever their signs and exponents are.
      rcases h with ⟨rfl, rfl⟩ | ⟨⟨rfl, rfl⟩, rfl⟩
      · rw [toInt?_zero, toInt?_zero]
      · rfl

/-- Equal numbers that are no integers are one number. -/
theorem eq_of_eq {x y : Binary64} (h : x.eq y = true) (hx : x.toInt? = none) : x = y := by
  cases x with
  | nan => cases h
  | infinite =>
    cases y with
    | infinite => simpa [Binary64.eq] using h
    | _ => cases h
  | finite negative m e =>
    cases y with
    | finite negative' n f =>
      -- Equal finite numbers are the same, or both zero, which is an integer.
      simp only [Binary64.eq, Bool.or_eq_true, Bool.and_eq_true, beq_iff_eq] at h
      rcases h with ⟨rfl, _⟩ | ⟨⟨rfl, rfl⟩, rfl⟩
      · rw [toInt?_zero] at hx
        cases hx
      · rfl
    | _ => cases h

end Egress.Binary64
