import Egress.Proofs.Outcome
import Egress.Proofs.Text.Split

/-!
# Integers survive being written and read

A decimal integer that is not too long is read back from its own text. The pieces of `readInt`
are taken one by one: trimming leaves the text alone, the sign is taken off, the digits form a
single group, and their value is the number.

## Key results

- `isDigit_or_eq_of_mem_toString`: a written integer consists of digits and perhaps a hyphen
- `readInt_toString`: `readInt` undoes `toString` below `digitBound`
- `natAbs_lt_of_readInt`: and it reads nothing else
- `mem_of_readInt`: the characters of a text that is read as an integer
-/

namespace Egress

open Egress.Text

namespace Number

/-! ### Decimal digits -/

/-- An ASCII digit lies between `0` and `9`. -/
theorem isDigit_iff {c : Char} : c.isDigit = true ↔ 48 ≤ c.toNat ∧ c.toNat ≤ 57 := by
  simp [Char.isDigit, UInt32.le_iff_toNat_le]

/-- The value of an ASCII digit. -/
theorem digitValue?_of_isDigit {c : Char} (h : c.isDigit = true) :
    digitValue? c = some (c.toNat - 48) := by
  have hc := isDigit_iff.1 h
  have h0 : '0' ≤ c := by rw [Char.le_def, UInt32.le_iff_toNat_le]; exact hc.1
  have h9 : c ≤ '9' := by rw [Char.le_def, UInt32.le_iff_toNat_le]; exact hc.2
  simp [digitValue?, h0, h9]

-- the table is one long text, read by recursion on its characters
set_option maxRecDepth 100000 in
/-- A block of digits is that of ASCII or lies behind ASCII. -/
private theorem digitBlocks_ascii :
    (digitBlocks.entries.all fun e => 0x30 ≤ e.1 && e.2.1 ≤ 0x39 || 0x80 ≤ e.1) = true := by
  unfold digitBlocks
  refine CodeMap.all_entries_ofText ?_
  decide +kernel

/-- No ASCII character is a digit of another script. -/
theorem isDigit_of_digitValue? {c : Char} (h : (digitValue? c).isSome = true)
    (hascii : c.toNat < 0x80) : c.isDigit = true := by
  rw [isDigit_iff]
  simp only [digitValue?, Char.le_def, UInt32.le_iff_toNat_le] at h
  -- A digit by the first range, or by a block of digits, none of which is in ASCII.
  split at h
  · rename_i hrange
    exact hrange
  · rw [Option.isSome_map, Option.isSome_iff_exists] at h
    obtain ⟨e, hentry⟩ := h
    have hblock := Array.all_eq_true_iff_forall_mem.1 digitBlocks_ascii e
      (Array.mem_of_find?_eq_some hentry)
    have hbounds := Array.find?_some hentry
    simp only [Bool.and_eq_true, Bool.or_eq_true, decide_eq_true_eq] at hblock hbounds
    omega

/-- A digit is no blank. -/
theorem isBlank_of_isDigit {c : Char} (h : c.isDigit = true) : isBlank c = false := by
  have hc := isDigit_iff.1 h
  simp only [isBlank, isSpace, Bool.or_eq_false_iff, Bool.and_eq_false_iff, decide_eq_false_iff_not,
    beq_eq_false_iff_ne]
  omega

/-- Digits that stand together are one group, each with its value. -/
theorem digitsOf_of_isDigit {s : List Char} (hs : s ≠ []) (h : ∀ c ∈ s, c.isDigit = true) :
    digitsOf digitValue? s = some (s.map fun c => c.toNat - 48) := by
  -- There is no underscore, so there is one group.
  have hsep : ∀ c ∈ s, (decide (c = '_')) = false := by
    intro c hc
    have := isDigit_iff.1 (h c hc)
    rw [decide_eq_false_iff_not]
    rintro rfl
    revert this
    decide
  -- Each digit has its value, by induction on the digits.
  have hmap : ∀ l : List Char, (∀ c ∈ l, c.isDigit = true) →
      l.mapM digitValue? = some (l.map fun c => c.toNat - 48) := by
    intro l hl
    induction l with
    | nil => rfl
    | cons c rest ih =>
      rw [List.mapM_cons, digitValue?_of_isDigit (hl c (by simp)),
        ih fun d hd => hl d (by simp [hd])]
      rfl
  have hne : s.isEmpty = false := by simpa using hs
  simp [digitsOf, splitBy_of_forall hsep, hne, hmap s h]

/-- The number that digits stand for, by the standard library's reading. -/
theorem ofDigits_map (s : List Char) :
    ofDigits (s.map fun c => c.toNat - 48) = Nat.ofDigitChars 10 s 0 := by
  rw [ofDigits, List.foldl_map, Nat.ofDigitChars_eq_foldl]
  rfl

/-- The value of a digit of any script is below ten. -/
theorem digitValue?_lt {c : Char} {d : Nat} (h : digitValue? c = some d) : d < 10 := by
  simp only [digitValue?] at h
  split at h
  · rename_i hc
    rw [Char.le_def, Char.le_def, UInt32.le_iff_toNat_le, UInt32.le_iff_toNat_le] at hc
    have h9 : c.toNat ≤ 57 := hc.2
    cases h
    omega
  · obtain ⟨_, _, rfl⟩ := Option.map_eq_some_iff.1 h
    exact Nat.mod_lt _ (by decide)

/-- A number is bounded by how many digits it is written with. -/
theorem ofDigits_lt {digits : List Nat} (h : ∀ d ∈ digits, d < 10) :
    ofDigits digits < Nat.pow 10 digits.length := by
  -- reading goes on from the number that the digits before stand for
  have hfrom : ∀ (n : Nat) (l : List Nat), (∀ d ∈ l, d < 10) →
      l.foldl (fun n d => 10 * n + d) n < (n + 1) * 10 ^ l.length := by
    intro n l hl
    induction l generalizing n with
    | nil => simp
    | cons d rest ih =>
      have hd := hl d (by simp)
      have hrest := ih (10 * n + d) fun e he => hl e (by simp [he])
      calc rest.foldl (fun n d => 10 * n + d) (10 * n + d)
          < (10 * n + d + 1) * 10 ^ rest.length := hrest
        _ ≤ (10 * (n + 1)) * 10 ^ rest.length := Nat.mul_le_mul_right _ (by omega)
        _ = (n + 1) * 10 ^ (rest.length + 1) := by
          rw [Nat.pow_succ', ← Nat.mul_assoc, Nat.mul_comm 10 (n + 1)]
  simpa [ofDigits] using hfrom 0 digits h

/-- A number of no more digits than a text may have is below the bound. -/
theorem pow_le_digitBound {k : Nat} (h : k ≤ digitLimit) : Nat.pow 10 k ≤ digitBound := by
  unfold digitBound
  generalize digitLimit = limit at h ⊢
  exact Nat.pow_le_pow_right (by decide) h

/-- A port in range is short enough to be read. -/
theorem portBound_le_digitBound : 65536 ≤ digitBound :=
  calc 65536 ≤ Nat.pow 10 5 := by decide
    _ ≤ digitBound := pow_le_digitBound (by decide)

/-! ### Integers -/

/-- The characters of a written natural number are digits. -/
theorem isDigit_of_mem_repr {n : Nat} {c : Char} (h : c ∈ n.repr.toList) : c.isDigit = true := by
  rw [Nat.toList_repr] at h
  exact Nat.isDigit_of_mem_toDigits (by decide) (by decide) h

/-- A written integer consists of digits and perhaps a hyphen. -/
theorem isDigit_or_eq_of_mem_toString {n : Int} {c : Char} (h : c ∈ (toString n).toList) :
    c.isDigit = true ∨ c = '-' := by
  rw [Int.toString_eq_repr, Int.repr_eq_if] at h
  split at h
  · exact .inl (isDigit_of_mem_repr h)
  · rw [String.toList_append, List.mem_append] at h
    rcases h with h | h
    · exact .inr (by simpa using h)
    · exact .inl (isDigit_of_mem_repr h)

/-- The digits of a number that is not too long are read as that number. -/
theorem readSigned_repr {n : Nat} (h : n < digitBound) (negative : Bool)
    {s : List Char} (hs : cutSign s = (negative, n.repr.toList)) :
    readSigned digitValue? s = .ok (signed negative n) := by
  have hne : n.repr.toList ≠ [] := by rw [Nat.toList_repr]; exact Nat.toDigits_ne_nil
  -- That the number is within the bound is that its digits are within the limit.
  have hlen : n.repr.toList.length ≤ digitLimit := by
    unfold digitBound at h
    have hpos : 0 < digitLimit := by decide
    generalize digitLimit = limit at h hpos ⊢
    rw [Nat.toList_repr]
    exact (Nat.length_toDigits_le_iff (by decide) hpos).2 h
  have hdigits := digitsOf_of_isDigit hne fun c hc => isDigit_of_mem_repr hc
  simp only [readSigned, hs, hdigits]
  rw [if_neg (by rw [List.length_map]; omega), ofDigits_map, Nat.toList_repr,
    Nat.ofDigitChars_ten_toDigits]

/-- An integer that is not too long is read back from its text. -/
theorem readInt_toString {n : Int} (h : n.natAbs < digitBound) :
    readInt (toString n).toList = .ok n := by
  have htrim : trim (toString n).toList = (toString n).toList := by
    refine trimBy_of_forall fun c hc => ?_
    -- The text of an integer has digits and a sign, neither of which is blank.
    rcases isDigit_or_eq_of_mem_toString hc with hd | rfl
    · exact isBlank_of_isDigit hd
    · decide
  rw [readInt, htrim, Int.toString_eq_repr, Int.repr_eq_if]
  split
  · -- a number without a sign begins with a digit, which is no sign
    rename_i hn
    have hcut : cutSign n.toNat.repr.toList = (false, n.toNat.repr.toList) := by
      cases hl : n.toNat.repr.toList with
      | nil => rfl
      | cons c rest =>
        have hc := isDigit_iff.1 (isDigit_of_mem_repr (n := n.toNat) (c := c) (by simp [hl]))
        unfold cutSign
        split
        · rename_i heq; cases heq; exact absurd hc (by decide)
        · rename_i heq; cases heq; exact absurd hc (by decide)
        · rfl
    rw [readSigned_repr (by omega) false hcut]
    simp only [signed, Bool.false_eq_true, if_false]
    congr 1
    omega
  · rename_i hn
    rw [String.toList_append, readSigned_repr (n := (-n).toNat) (by omega) true rfl]
    simp only [signed, if_true]
    congr 1
    omega

/-- An integer that is read has no more digits than a text may have. -/
theorem natAbs_lt_of_readInt {s : List Char} {n : Int} (h : readInt s = .ok n) :
    n.natAbs < digitBound := by
  simp only [readInt, readSigned] at h
  split at h
  · cases h
  · rename_i digits hdigits
    obtain ⟨hlen, h⟩ := guard_eq_ok.1 h
    cases h
    -- What was read are values of digits.
    have hten : ∀ d ∈ digits, d < 10 := by
      intro d hd
      simp only [digitsOf] at hdigits
      split at hdigits
      · cases hdigits
      · have hmem := List.mem_map_of_mem (f := some) hd
        rw [← map_eq_of_mapM_some hdigits] at hmem
        obtain ⟨c, _, hc⟩ := List.mem_map.1 hmem
        exact digitValue?_lt hc
    have hsize : (signed (cutSign (trim s)).1 (ofDigits digits)).natAbs = ofDigits digits := by
      simp only [signed]
      split <;> omega
    rw [hsize]
    calc ofDigits digits < Nat.pow 10 digits.length := ofDigits_lt hten
      _ ≤ digitBound := pow_le_digitBound (by omega)

/-- A text that is read as an integer consists of digits, signs, underscores and blanks. -/
theorem mem_of_readInt {s : List Char} {n : Int} (h : readInt s = .ok n) {c : Char} (hc : c ∈ s) :
    isBlank c = true ∨ c ∈ ['-', '+', '_'] ∨ (digitValue? c).isSome = true := by
  simp only [readInt, readSigned] at h
  split at h
  · cases h
  · rename_i digits hdigits
    have hsign : ∀ l : List Char, c ∈ l → c ∈ ['-', '+', '_'] ∨ c ∈ (cutSign l).2 := by
      intro l hl
      unfold cutSign
      split
      · rcases List.mem_cons.1 hl with rfl | hl
        · exact .inl (by decide)
        · exact .inr hl
      · rcases List.mem_cons.1 hl with rfl | hl
        · exact .inl (by decide)
        · exact .inr hl
      · exact .inr hl
    have htrim : isBlank c = true ∨ c ∈ trim s := mem_trimBy hc
    rcases htrim with hblank | hc
    · exact .inl hblank
    rcases hsign _ hc with hmark | hc
    · exact .inr (.inl hmark)
    right
    -- the character is an underscore or belongs to a group of digits
    simp only [digitsOf] at hdigits
    split at hdigits
    · cases hdigits
    · rcases mem_splitBy (p := (· = '_')) hc with hmark | ⟨group, hgroup, hc⟩
      · cases of_decide_eq_true hmark
        exact .inl (by decide)
      · have hmem := List.mem_map_of_mem (f := digitValue?) (List.mem_flatten_of_mem hgroup hc)
        rw [map_eq_of_mapM_some hdigits] at hmem
        obtain ⟨d, _, hd⟩ := List.mem_map.1 hmem
        exact .inr (by rw [← hd]; rfl)

end Number

end Egress
