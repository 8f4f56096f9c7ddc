import Egress.Proofs.Number.Binary64
import Egress.Proofs.Outcome
import Egress.Value.Equal

/-!
# Keys of maps

Values of different types can be equal: a truth value and an integer, an integer and a
floating-point number, a member of an enumeration and its text. Equal keys have a core in common,
so that equality tells keys apart into classes, each of which names one entry of a map.

## Key results

- `Value.isKey`: the values that equality tells apart
- `Value.core`: what equal keys have in common
- `Value.eqvItem_iff`: keys are equal exactly when they have one core
- `Value.sameKey_self`, `Value.sameKey_symm`, `Value.sameKey_trans`: naming one entry is an
  equivalence
- `Value.eqvKey_of_isName`: whether names are of one entry can be found out
- `Value.sameKey_text_iff`: what names the entry of a text
-/

namespace Egress.Value

/-! ### Cores -/

mutual

/-- Whether a value is made of scalars of known size, tuples and headers. Sets and maps are left
out, and so are URLs, which are also equal to texts that are not equal to each other. -/
def isKey : Value → Bool
  | .null | .bool _ | .int _ | .text _ | .member _ | .bytes .. | .ref _ => true
  | .float x => x.isCanonical
  | .seq _ items => areKeys items
  | .header name value => name.isKey && value.isKey
  | .set .. | .map .. | .url _ => false

/-- Whether each of the values is a key. -/
def areKeys : List Value → Bool
  | [] => true
  | v :: rest => v.isKey && areKeys rest

end

mutual

/-- A value without what equality does not look at: the type of a number that is an integer, the
enumeration of a text, and whether bytes can be changed. -/
def core : Value → Value
  | .bool b => .int (if b then 1 else 0)
  | .float x => x.toInt?.elim (.float x) .int
  | .member m => .text m.text
  | .bytes _ data => .bytes .frozen data
  | .seq access items => .seq access (cores items)
  | .header name value => .header name.core value.core
  | v => v

/-- The cores of values, in order. -/
def cores : List Value → List Value
  | [] => []
  | v :: rest => v.core :: cores rest

end

/-- The core of a floating-point number is an integer or the number. -/
theorem core_float (x : Binary64) :
    (∃ k, x.toInt? = some k ∧ core (.float x) = .int k) ∨
      (x.toInt? = none ∧ core (.float x) = .float x) := by
  cases hx : x.toInt? with
  | some k => exact .inl ⟨k, rfl, by rw [core, hx]; rfl⟩
  | none => exact .inr ⟨rfl, by rw [core, hx]; rfl⟩

/-- Floating-point numbers have one core when they are the same integer, or one number. -/
private theorem core_float_inj {x y : Binary64} : core (.float x) = core (.float y) ↔
    x.toInt? = y.toInt? ∧ (x.toInt? = none → x = y) := by
  rw [core, core]
  cases x.toInt? <;> cases y.toInt? <;> simp

/-- No other value has the core of a floating-point number. -/
private theorem ne_core_float {v : Value} (hinteger : v.integer? = none)
    (hnumber : v.number? = none) (x : Binary64) : v ≠ core (.float x) := by
  rintro rfl
  rcases core_float x with ⟨k, _, hcore⟩ | ⟨_, hcore⟩
  · rw [hcore] at hinteger
    cases hinteger
  · rw [hcore] at hnumber
    cases hnumber

/-- Two tests succeed when both do. -/
theorem andThen_eq_true {x y : Except UrlError Bool} :
    andThen x y = .ok true ↔ x = .ok true ∧ y = .ok true := by
  rw [andThen, bind_eq_ok]
  constructor
  · rintro ⟨found, hx, hy⟩
    cases found with
    | true => exact ⟨hx, hy⟩
    | false => cases hy
  · rintro ⟨hx, hy⟩
    exact ⟨true, hx, hy⟩

/-! ### Equality of keys -/

/-- An integer is equal to the values with this core. -/
private theorem eqNumber_of_integer? {a : Value} {n : Int} (ha : a.integer? = some n) (b : Value) :
    eqNumber a b = true ↔ core b = .int n := by
  have hnumber : a.number? = none := by
    cases a <;> first | rfl | cases ha
  rw [eqNumber, ha, hnumber]
  -- Any value with the same core is a number of one kind or another.
  cases b with
  | float y =>
    change (y.toInt? == some n) = true ↔ _
    rw [beq_iff_eq]
    rcases core_float y with ⟨k, hk, hcore⟩ | ⟨hk, hcore⟩ <;> simp [hk, hcore]
  | bool c => simp only [integer?, core, beq_iff_eq, int.injEq, @eq_comm _ n]
  | int k => simp only [integer?, core, beq_iff_eq, int.injEq, @eq_comm _ n]
  | _ => simp [integer?, number?, core]

/-- A text is equal to the keys with this core. -/
private theorem eqText_iff {s : String} {b : Value} (hb : b.isKey = true) :
    eqText s b = .ok true ↔ .text s = b.core := by
  cases b with
  | url => cases hb
  | float y => exact iff_of_false (by simp [eqText, text?]) (ne_core_float rfl rfl y)
  | text t => simp [eqText, text?, core, @eq_comm _ s]
  | member m => simp [eqText, text?, core, @eq_comm _ s]
  | _ => simp [eqText, text?, core]

/-- Two floating-point numbers count as one when their cores do. -/
private theorem eqvItem_floats {x y : Binary64} (hx : x.isCanonical = true)
    (hy : y.isCanonical = true) :
    eqvItem (.float x) (.float y) = .ok true ↔ core (.float x) = core (.float y) := by
  by_cases hnan : sameNan (.float x) (.float y) = true
  · -- no number is the same thing by its payload
    have hxy : x = y := by
      cases x <;> cases y <;> first | cases hnan | skip
      simpa using (Bool.and_eq_true_iff.1 hnan).2
    rw [eqvItem, if_pos hnan, hxy]
    simp
  · have heq : eqvItem (.float x) (.float y) = .ok (x.eq y) := by
      rw [eqvItem, if_neg hnan, eqv]
      rfl
    rw [heq, Except.ok.injEq, core_float_inj]
    refine ⟨fun h => ⟨Binary64.toInt?_eq_of_eq h, Binary64.eq_of_eq h⟩, ?_⟩
    rintro ⟨hsize, hsame⟩
    -- A number that is an integer is compared by it, any other by its parts.
    cases hk : x.toInt? with
    | some k => exact Binary64.eq_of_toInt?_eq hx hy hk (hsize ▸ hk)
    | none =>
      obtain rfl := hsame hk
      cases x with
      | finite => simp [Binary64.eq]
      | infinite => simp [Binary64.eq]
      -- A canonical payload is not zero, so the number would be the same thing as itself.
      | nan p =>
        have hp : p ≠ 0 := by simpa [Binary64.isCanonical] using hx
        exact absurd (by simp [sameNan, hp]) hnan

/-- A floating-point number and a value of another type are equal when the value has the core of the
number. -/
private theorem eqNumber_float {x : Binary64} {b : Value} (hb : b.number? = none) :
    eqNumber (.float x) b = true ↔ core (.float x) = b.core := by
  cases b with
  | float => cases hb
  | bool | int =>
    rcases core_float x with ⟨k, hk, hcore⟩ | ⟨hk, hcore⟩ <;> rw [hcore] <;>
      simp [eqNumber, integer?, number?, hk, core]
  | _ => exact iff_of_false Bool.false_ne_true (ne_core_float rfl rfl x).symm

/-- Only floating-point numbers are the same without being equal. -/
theorem eqvItem_eq {a b : Value} (h : a.number? = none ∨ b.number? = none) :
    eqvItem a b = eqv a b := by
  refine if_neg fun hnan => ?_
  unfold sameNan at hnan
  split at hnan
  · rcases h with h | h <;> cases h
  · cases hnan

mutual

/-- Keys count as one exactly when they have one core. -/
theorem eqvItem_iff : (a b : Value) → a.isKey = true → b.isKey = true →
    (eqvItem a b = .ok true ↔ a.core = b.core)
  -- A floating-point number is compared with numbers only.
  | .float x, b, ha, hb => by
    cases hnumber : b.number? with
    | some y =>
      cases b <;> cases hnumber
      exact eqvItem_floats ha hb
    | none => rw [eqvItem_eq (.inr hnumber), eqv, Except.ok.injEq, eqNumber_float hnumber]
  | .bool c, b, _, _ => by
    rw [eqvItem_eq (.inl rfl), eqv, Except.ok.injEq, eqNumber_of_integer? rfl]
    exact eq_comm
  | .int n, b, _, _ => by
    rw [eqvItem_eq (.inl rfl), eqv, Except.ok.injEq, eqNumber_of_integer? rfl]
    exact eq_comm
  | .text s, b, _, hb => by
    rw [eqvItem_eq (.inl rfl), eqv, eqText_iff hb]
    rfl
  | .member m, b, _, hb => by
    rw [eqvItem_eq (.inl rfl), eqv, eqText_iff hb]
    rfl
  | .seq access items, b, ha, hb => by
    rw [eqvItem_eq (.inl rfl)]
    -- Sequences are compared only if they are as long and of one kind.
    cases b with
    | seq access' items' =>
      rw [eqv, core, core, seq.injEq, ← eqvAll_iff items items' ha hb]
      split
      · rename_i h
        simp [h]
      · rename_i h
        refine iff_of_false (by simp) fun heq => h ⟨heq.1, heq.2.1⟩
    | float y => exact iff_of_false (by simp [eqv]) (ne_core_float rfl rfl y)
    | _ => simp [eqv, core]
  | .header name value, b, ha, hb => by
    rw [eqvItem_eq (.inl rfl)]
    cases b with
    | header name' value' =>
      simp only [isKey, Bool.and_eq_true] at ha hb
      rw [eqv, andThen_eq_true, core, core, header.injEq]
      exact and_congr (eqvItem_iff name name' ha.1 hb.1) (eqvItem_iff value value' ha.2 hb.2)
    | float y => exact iff_of_false (by simp [eqv]) (ne_core_float rfl rfl y)
    | _ => simp [eqv, core]
  | .bytes .., b, _, _ | .null, b, _, _ | .ref _, b, _, _ => by
    rw [eqvItem_eq (.inl rfl)]
    cases b with
    | float y => exact iff_of_false (by simp [eqv]) (ne_core_float rfl rfl y)
    | _ => simp [eqv, core]

/-- Keys in a row count as one, one by one, exactly when their cores are the same. -/
theorem eqvAll_iff : (items items' : List Value) → areKeys items = true → areKeys items' = true →
    (items.length = items'.length ∧ eqvAll items items' = .ok true ↔ cores items = cores items')
  | [], [], _, _ => by simp [eqvAll]
  | [], b :: rest', _, _ => by simp [cores]
  | a :: rest, [], _, _ => by simp [cores]
  -- The first elements count as one, and so do the others.
  | a :: rest, b :: rest', ha, hb => by
    simp only [areKeys, Bool.and_eq_true] at ha hb
    rw [eqvAll, andThen_eq_true, cores, cores, List.cons.injEq, ← eqvItem_iff a b ha.1 hb.1,
      ← eqvAll_iff rest rest' ha.2 hb.2, List.length_cons, List.length_cons,
      Nat.add_right_cancel_iff, eqvItem]
    exact and_left_comm

end

/-- Two tests that give an answer do so together. -/
theorem exists_andThen_eq_ok {x y : Except UrlError Bool} (hx : ∃ r, x = .ok r)
    (hy : ∃ r, y = .ok r) : ∃ r, andThen x y = .ok r := by
  obtain ⟨r, rfl⟩ := hx
  cases r with
  | false => exact ⟨false, rfl⟩
  | true => exact hy

mutual

/-- Keys can be compared with each other. -/
theorem exists_eqvItem_eq_ok : (a b : Value) → a.isKey = true → b.isKey = true →
    ∃ r, eqvItem a b = .ok r
  | .seq access items, b, ha, hb => by
    rw [eqvItem_eq (.inl rfl)]
    cases b with
    -- Only sequences that are as long are compared element by element.
    | seq access' items' =>
      rw [eqv]
      split
      · exact exists_eqvAll_eq_ok items items' ha hb
      · exact ⟨false, rfl⟩
    | _ => exact ⟨false, by simp [eqv]⟩
  | .header name value, b, ha, hb => by
    rw [eqvItem_eq (.inl rfl)]
    cases b with
    | header name' value' =>
      simp only [isKey, Bool.and_eq_true] at ha hb
      rw [eqv]
      exact exists_andThen_eq_ok (exists_eqvItem_eq_ok name name' ha.1 hb.1)
        (exists_eqvItem_eq_ok value value' ha.2 hb.2)
    | _ => exact ⟨false, by simp [eqv]⟩
  | .text s, b, _, hb => by
    rw [eqvItem_eq (.inl rfl), eqv]
    cases b with
    | url => cases hb
    | _ => exact ⟨_, rfl⟩
  | .member m, b, _, hb => by
    rw [eqvItem_eq (.inl rfl), eqv]
    cases b with
    | url => cases hb
    | _ => exact ⟨_, rfl⟩
  | .float x, b, _, _ => by
    rw [eqvItem]
    split
    · exact ⟨true, rfl⟩
    · exact ⟨_, by rw [eqv]⟩
  | .bool c, b, _, _ => ⟨_, by rw [eqvItem_eq (.inl rfl), eqv]⟩
  | .int n, b, _, _ => ⟨_, by rw [eqvItem_eq (.inl rfl), eqv]⟩
  | .null, b, _, _ | .bytes .., b, _, _ | .ref _, b, _, _ => by
    rw [eqvItem_eq (.inl rfl)]
    cases b <;> simp [eqv]

/-- Keys in a row can be compared one by one. -/
theorem exists_eqvAll_eq_ok : (items items' : List Value) → areKeys items = true →
    areKeys items' = true → ∃ r, eqvAll items items' = .ok r
  | [], items', _, _ => ⟨true, by rw [eqvAll]⟩
  | a :: rest, [], _, _ => ⟨false, by rw [eqvAll]⟩
  | a :: rest, b :: rest', ha, hb => by
    simp only [areKeys, Bool.and_eq_true] at ha hb
    rw [eqvAll]
    exact exists_andThen_eq_ok (exists_eqvItem_eq_ok a b ha.1 hb.1)
      (exists_eqvAll_eq_ok rest rest' ha.2 hb.2)

end

/-! ### Naming one entry -/

variable {a b c : Value}

/-- Values have the same digest when both have one and it is the same. -/
theorem sameDigest_iff :
    sameDigest a b = true ↔ ∃ d, a.digest = .ok d ∧ b.digest = .ok d := by
  unfold sameDigest
  split
  · rename_i d e hd he
    rw [hd, he, beq_iff_eq]
    exact ⟨fun h => ⟨d, rfl, h ▸ rfl⟩, fun ⟨_, h, h'⟩ => by cases h; cases h'; rfl⟩
  · rename_i hno
    exact iff_of_false Bool.false_ne_true fun ⟨d, hd, he⟩ => hno d d hd he

/-- Values name one entry when their digests are the same and they count as one. -/
theorem sameKey_eq_true :
    sameKey a b = true ↔ sameDigest a b = true ∧ eqvItem a b = .ok true := by
  rw [sameKey, Bool.and_eq_true]
  refine and_congr_right fun _ => ?_
  split
  · rename_i h
    exact iff_of_true rfl h
  · rename_i hno
    exact iff_of_false Bool.false_ne_true hno

/-- Whether a key is found to be another: equality is asked only of keys with one digest. -/
def eqvKey (a b : Value) : Except UrlError Bool :=
  if !sameDigest a b then .ok false else eqvItem a b

/-- Keys are found to be one when they have the same digest and count as one. -/
theorem eqvKey_eq_true : eqvKey a b = .ok true ↔ sameKey a b = true := by
  rw [sameKey_eq_true, eqvKey]
  cases sameDigest a b <;> simp

/-- Keys name one entry when they have one digest and one core. -/
theorem sameKey_iff (ha : a.isKey = true) (hb : b.isKey = true) :
    sameKey a b = true ↔ (∃ d, a.digest = .ok d ∧ b.digest = .ok d) ∧ a.core = b.core := by
  rw [sameKey_eq_true, sameDigest_iff, eqvItem_iff a b ha hb]

/-- A value that names no entry, or one that equality tells from the others. -/
def IsName (v : Value) : Prop := ∀ d, v.digest = .ok d → v.isKey = true

/-- A key is a name. -/
theorem isName_of_isKey (h : a.isKey = true) : a.IsName := fun _ _ => h

/-- Names that are the same are keys. -/
theorem isKey_of_sameKey (ha : a.IsName) (hb : b.IsName) (h : sameKey a b = true) :
    a.isKey = true ∧ b.isKey = true := by
  obtain ⟨d, hda, hdb⟩ := sameDigest_iff.1 (sameKey_eq_true.1 h).1
  exact ⟨ha d hda, hb d hdb⟩

/-- A name that can be hashed names its own entry. -/
theorem sameKey_self {d : String} (ha : a.IsName) (hd : a.digest = .ok d) : sameKey a a = true :=
  (sameKey_iff (ha d hd) (ha d hd)).2 ⟨⟨d, hd, hd⟩, rfl⟩

/-- Whether names are of one entry can be found out. -/
theorem eqvKey_of_isName (ha : a.IsName) (hb : b.IsName) : eqvKey a b = .ok (sameKey a b) := by
  rw [eqvKey]
  split
  · rename_i hdiffer
    rw [sameKey, (by simpa using hdiffer : sameDigest a b = false), Bool.false_and]
  · rename_i hsame
    rw [Bool.not_eq_true, Bool.not_eq_false'] at hsame
    -- Values with one digest are keys, which can be compared.
    obtain ⟨d, hda, hdb⟩ := sameDigest_iff.1 hsame
    obtain ⟨r, hr⟩ := exists_eqvItem_eq_ok a b (ha d hda) (hb d hdb)
    rw [sameKey, hsame, hr]
    cases r <;> rfl

/-- A name that is the same as another has that one as the same. -/
theorem sameKey_symm (ha : a.IsName) (hb : b.IsName) (h : sameKey a b = true) :
    sameKey b a = true := by
  obtain ⟨hka, hkb⟩ := isKey_of_sameKey ha hb h
  obtain ⟨⟨d, hda, hdb⟩, hcore⟩ := (sameKey_iff hka hkb).1 h
  exact (sameKey_iff hkb hka).2 ⟨⟨d, hdb, hda⟩, hcore.symm⟩

/-- Names that are the same as a third are the same. -/
theorem sameKey_trans (ha : a.IsName) (hb : b.IsName) (hc : c.IsName)
    (hab : sameKey a b = true) (hbc : sameKey b c = true) : sameKey a c = true := by
  obtain ⟨hka, hkb⟩ := isKey_of_sameKey ha hb hab
  obtain ⟨_, hkc⟩ := isKey_of_sameKey hb hc hbc
  obtain ⟨⟨d, hda, hdb⟩, hcore⟩ := (sameKey_iff hka hkb).1 hab
  obtain ⟨⟨e, heb, hec⟩, hcore'⟩ := (sameKey_iff hkb hkc).1 hbc
  have hde : d = e := Except.ok.inj (hdb.symm.trans heb)
  exact (sameKey_iff hka hkc).2 ⟨⟨d, hda, hde ▸ hec⟩, hcore.trans hcore'⟩

/-- Names of one entry are the same to every name. -/
theorem sameKey_congr (ha : a.IsName) (hb : b.IsName) (hc : c.IsName) (hab : sameKey a b = true) :
    sameKey a c = sameKey b c :=
  Bool.eq_iff_iff.2 ⟨sameKey_trans hb ha hc (sameKey_symm ha hb hab), sameKey_trans ha hb hc hab⟩

/-- The names of the entry of a text are that text and the members with it. -/
theorem sameKey_text_iff {s : String} (ha : a.IsName) :
    sameKey a (.text s) = true ↔ a.text? = some s := by
  constructor
  · intro h
    -- What is the same as a text is a key with that text as its core.
    obtain ⟨hka, _⟩ := isKey_of_sameKey ha (isName_of_isKey rfl) h
    obtain ⟨_, hcore⟩ := (sameKey_iff hka rfl).1 h
    cases a with
    | float x => exact absurd hcore.symm (ne_core_float rfl rfl x)
    | text t => simpa [core, text?] using hcore
    | member m => simpa [core, text?] using hcore
    | _ => simp [core] at hcore
  · intro h
    cases a with
    | text t => cases h; exact (sameKey_iff rfl rfl).2 ⟨⟨_, rfl, rfl⟩, rfl⟩
    | member m => cases h; exact (sameKey_iff rfl rfl).2 ⟨⟨_, rfl, rfl⟩, rfl⟩
    | _ => cases h

end Egress.Value
