import Egress.Proofs.Value.Entries

/-!
# Values that equal themselves

A value counts as one with itself if it is sound at every depth: what is no number is told from the
others of its kind, and the elements of a set and the keys of a map can be hashed and are told
apart. Freezing keeps values sound, and leaves those alone that can be hashed.

## Key results

- `Value.isSound`: the values that are sound
- `Value.areApart_iff`: keys that are told apart
- `Value.freeze_of_digest`: what can be hashed is frozen
- `Value.isSound_freeze`: a frozen copy is sound when the value is
- `Value.eqvItem_self`: a sound value counts as one with itself
-/

namespace Egress.Value

/-! ### Sound values -/

/-- Whether keys can be hashed and each of them is found to be another than the others. -/
def areApart : List Value → Bool
  | [] => true
  | k :: rest =>
    k.digest.toOption.isSome &&
      rest.all (fun l => (eqvKey k l matches .ok false) && (eqvKey l k matches .ok false)) &&
      areApart rest

mutual

/-- Whether a value is as sets, maps and numbers are made. -/
def isSound : Value → Bool
  | .float x => x.isCanonical
  | .seq _ items => areSound items
  | .set _ items => areSound items && areApart items
  | .map _ entries => areSoundEntries entries && areApart (entries.map (·.1))
  | .header name value => name.isSound && value.isSound
  | .null | .bool _ | .int _ | .text _ | .member _ | .bytes .. | .url _ | .ref _ => true

/-- Whether values are as sets, maps and numbers are made. -/
def areSound : List Value → Bool
  | [] => true
  | v :: rest => v.isSound && areSound rest

/-- Whether keys and values are as sets, maps and numbers are made. -/
def areSoundEntries : List (Value × Value) → Bool
  | [] => true
  | (k, v) :: rest => k.isSound && v.isSound && areSoundEntries rest

end

/-- Values are sound when each is. -/
theorem areSound_iff {items : List Value} :
    areSound items = true ↔ ∀ v ∈ items, v.isSound = true := by
  induction items with
  | nil => simp [areSound]
  | cons v rest ih => simp [areSound, ih]

/-- Values are told apart when each can be hashed and is found to be another than the others. -/
theorem areApart_iff {items : List Value} :
    areApart items = true ↔ (∀ v ∈ items, ∃ d, v.digest = .ok d) ∧
      items.Pairwise fun k l => eqvKey k l = .ok false ∧ eqvKey l k = .ok false := by
  -- The test as it is written, and what it says.
  have hmatches : ∀ {k l : Value}, (eqvKey k l matches .ok false) = true ↔
      eqvKey k l = .ok false := by
    intro k l
    split
    · rename_i h
      exact iff_of_true rfl h
    · rename_i hno
      exact iff_of_false Bool.false_ne_true hno
  induction items with
  | nil => simp [areApart]
  | cons k rest ih =>
    have hdigest : k.digest.toOption.isSome = true ↔ ∃ d, k.digest = .ok d := by
      simp [Option.isSome_iff_exists, toOption_eq_some]
    simp only [areApart, Bool.and_eq_true, ih, hdigest, List.all_eq_true, List.pairwise_cons,
      List.forall_mem_cons]
    constructor
    · rintro ⟨⟨hk, hothers⟩, hrest, hpairs⟩
      exact ⟨⟨hk, hrest⟩,
        fun l hl => ⟨hmatches.1 (hothers l hl).1, hmatches.1 (hothers l hl).2⟩, hpairs⟩
    · rintro ⟨⟨hk, hrest⟩, hothers, hpairs⟩
      exact ⟨⟨hk, fun l hl => ⟨hmatches.2 (hothers l hl).1, hmatches.2 (hothers l hl).2⟩⟩, hrest,
        hpairs⟩

/-- Values that are told apart can be hashed. -/
theorem exists_digests_of_areApart {items : List Value} (h : areApart items = true) :
    ∃ ds, digests items = .ok ds := by
  have hdigests := (areApart_iff.1 h).1
  clear h
  induction items with
  | nil => exact ⟨[], rfl⟩
  | cons v rest ih =>
    obtain ⟨⟨d, hd⟩, hrest⟩ := List.forall_mem_cons.1 hdigests
    obtain ⟨ds, hds⟩ := ih hrest
    exact ⟨d :: ds, by rw [digests, hd, hds]; rfl⟩

/-- Values that are told apart are so in any order. -/
theorem areApart_of_perm {items items' : List Value} (h : items.Perm items')
    (hapart : areApart items = true) : areApart items' = true := by
  obtain ⟨hdigests, hpairs⟩ := areApart_iff.1 hapart
  refine areApart_iff.2 ⟨fun v hv => hdigests v (h.mem_iff.2 hv), ?_⟩
  exact (h.pairwise_iff fun h => ⟨h.2, h.1⟩).1 hpairs

/-- A key that is found to be another names another entry. -/
theorem sameKey_of_eqvKey {k l : Value} (h : eqvKey k l = .ok false) : sameKey k l = false := by
  rw [Bool.eq_false_iff]
  intro hsame
  rw [eqvKey_eq_true.2 hsame] at h
  cases h

/-- A key that is told apart from the others is the first that it is found to be. -/
theorem areApart_split {before after : List Value} {k : Value}
    (h : areApart (before ++ k :: after) = true) :
    (∃ d, k.digest = .ok d) ∧ ∀ l ∈ before, eqvKey k l = .ok false := by
  induction before with
  | nil =>
    simp only [List.nil_append, areApart, Bool.and_eq_true] at h
    obtain ⟨d, hd⟩ := Option.isSome_iff_exists.1 h.1.1
    exact ⟨⟨d, toOption_eq_some.1 hd⟩, fun _ hl => nomatch hl⟩
  | cons l rest ih =>
    simp only [List.cons_append, areApart, Bool.and_eq_true, List.all_eq_true] at h
    obtain ⟨⟨_, hothers⟩, hrest⟩ := h
    obtain ⟨hd, hbefore⟩ := ih hrest
    refine ⟨hd, List.forall_mem_cons.2 ⟨?_, hbefore⟩⟩
    -- Each value before the key was found to be another than it.
    have hkl := (hothers k (List.mem_append_right _ List.mem_cons_self)).2
    split at hkl
    · assumption
    · cases hkl

/-! ### Freezing -/

mutual

/-- What can be hashed is frozen. -/
theorem freeze_of_digest : (v : Value) → {d : String} → v.digest = .ok d → v.freeze = v
  | .seq .frozen items, d, h => by
    -- The elements have digests, so they are frozen already.
    obtain ⟨ds, hds, _⟩ := map_eq_ok.1 (by rwa [digest] at h)
    rw [freeze, freezeAll_of_digests items hds]
  | .set .frozen items, d, h => by
    obtain ⟨ds, hds, _⟩ := map_eq_ok.1 (by rwa [digest] at h)
    rw [freeze, freezeAll_of_digests items hds]
  | .bytes .frozen _, _, _ => rfl
  | .seq .mutable _, _, h | .set .mutable _, _, h | .bytes .mutable _, _, h
  | .map .mutable _, _, h | .map .frozen _, _, h => by simp [digest] at h
  | .null, _, _ | .bool _, _, _ | .int _, _, _ | .float _, _, _ | .text _, _, _ | .member _, _, _
  | .url _, _, _ | .header .., _, _ | .ref _, _, _ => rfl

/-- Values that can be hashed are their own frozen copies. -/
theorem freezeAll_of_digests : (items : List Value) → {ds : List String} →
    digests items = .ok ds → freezeAll items = items
  | [], _, _ => rfl
  | v :: rest, ds, h => by
    rw [digests] at h
    obtain ⟨d, hd, h⟩ := bind_eq_ok.1 h
    obtain ⟨ds', hds, _⟩ := bind_eq_ok.1 h
    rw [freezeAll, freeze_of_digest v hd, freezeAll_of_digests rest hds]

end

/-- Freezing keeps the keys. -/
theorem map_fst_freezeEntries (entries : List (Value × Value)) :
    (freezeEntries entries).map (·.1) = entries.map (·.1) := by
  rw [freezeEntries_eq_map, List.map_map]
  rfl

/-- Keys that are told apart are frozen. -/
theorem freezeAll_of_areApart {items : List Value} (h : areApart items = true) :
    freezeAll items = items := by
  induction items with
  | nil => rfl
  | cons k rest ih =>
    obtain ⟨⟨d, hd⟩, _⟩ := areApart_split (List.nil_append (k :: rest) ▸ h)
    simp only [areApart, Bool.and_eq_true] at h
    rw [freezeAll, freeze_of_digest k hd, ih h.2]

mutual

/-- A frozen copy is sound when the value is. -/
theorem isSound_freeze : (v : Value) → v.isSound = true → v.freeze.isSound = true
  | .seq _ items, h => by
    rw [freeze, isSound]
    exact areSound_freezeAll items h
  | .set _ items, h => by
    rw [isSound, Bool.and_eq_true] at h
    -- The elements of a set can be hashed, so freezing leaves them as they are.
    rw [freeze, freezeAll_of_areApart h.2, isSound, Bool.and_eq_true]
    exact h
  | .map _ entries, h => by
    rw [isSound, Bool.and_eq_true] at h
    rw [freeze, isSound, Bool.and_eq_true, map_fst_freezeEntries]
    exact ⟨areSoundEntries_freezeEntries entries h.1, h.2⟩
  | .float _, h | .header .., h => h
  | .null, _ | .bool _, _ | .int _, _ | .text _, _ | .member _, _ | .bytes .., _ | .url _, _
  | .ref _, _ => rfl

/-- Frozen copies of sound values are sound. -/
theorem areSound_freezeAll : (items : List Value) → areSound items = true →
    areSound (freezeAll items) = true
  | [], _ => rfl
  | v :: rest, h => by
    rw [areSound, Bool.and_eq_true] at h
    rw [freezeAll, areSound, Bool.and_eq_true]
    exact ⟨isSound_freeze v h.1, areSound_freezeAll rest h.2⟩

/-- Frozen copies of sound entries are sound. -/
theorem areSoundEntries_freezeEntries : (entries : List (Value × Value)) →
    areSoundEntries entries = true → areSoundEntries (freezeEntries entries) = true
  | [], _ => rfl
  | (k, v) :: rest, h => by
    rw [areSoundEntries, Bool.and_eq_true, Bool.and_eq_true] at h
    rw [freezeEntries, areSoundEntries, Bool.and_eq_true, Bool.and_eq_true]
    exact ⟨⟨h.1.1, isSound_freeze v h.1.2⟩, areSoundEntries_freezeEntries rest h.2⟩

end

/-! ### Equality -/

/-- A value that passes is found behind those that do not. -/
theorem anyOf_of_split {test : Value → Except UrlError Bool} {v : Value} {before after : List Value}
    (hbefore : ∀ w ∈ before, test w = .ok false) (hv : test v = .ok true) :
    anyOf test (before ++ v :: after) = .ok true := by
  induction before with
  | nil =>
    rw [List.nil_append, anyOf, hv]
    rfl
  | cons w rest ih =>
    obtain ⟨hw, hrest⟩ := List.forall_mem_cons.1 hbefore
    rw [List.cons_append, anyOf, hw]
    exact ih hrest

/-- Each value is found when it is found on its own. -/
theorem eachIn_of_forall {items others : List Value}
    (h : ∀ v ∈ items, anyOf (eqvKey v) others = .ok true) : eachIn items others = .ok true := by
  induction items with
  | nil => rw [eachIn]
  | cons v rest ih =>
    obtain ⟨hv, hrest⟩ := List.forall_mem_cons.1 h
    rw [eachIn, andThen_eq_true]
    exact ⟨hv, ih hrest⟩

/-- A key that can be hashed and counts as one with itself is found to be itself. -/
theorem eqvKey_self {k : Value} {d : String} (hd : k.digest = .ok d)
    (hk : eqvItem k k = .ok true) : eqvKey k k = .ok true := by
  have hsame : sameDigest k k = true := sameDigest_iff.2 ⟨d, hd, hd⟩
  rw [eqvKey, hsame]
  exact hk

/-- A set is equal to itself when its elements are told apart and count as one with themselves. -/
theorem eachIn_self {items : List Value} (hself : ∀ v ∈ items, eqvItem v v = .ok true)
    (h : areApart items = true) : eachIn items items = .ok true := by
  refine eachIn_of_forall fun v hv => ?_
  have hvv := hself v hv
  obtain ⟨before, after, rfl⟩ := List.append_of_mem hv
  obtain ⟨⟨d, hd⟩, hbefore⟩ := areApart_split h
  exact anyOf_of_split hbefore (eqvKey_self hd hvv)

/-- A map is equal to itself when its keys are told apart and its keys and values count as one with
themselves. -/
theorem eachEntryIn_self {entries : List (Value × Value)}
    (hself : ∀ e ∈ entries, eqvItem e.1 e.1 = .ok true ∧ eqvItem e.2 e.2 = .ok true)
    (h : areApart (entries.map (·.1)) = true) : eachEntryIn entries entries = .ok true := by
  refine eachEntryIn_of_isMet fun e he => ?_
  obtain ⟨hkey, hvalue⟩ := hself e he
  obtain ⟨before, after, rfl⟩ := List.append_of_mem he
  rw [List.map_append, List.map_cons] at h
  obtain ⟨⟨d, hd⟩, hbefore⟩ := areApart_split h
  refine ⟨before, e, after, rfl, fun f hf => hbefore f.1 (List.mem_map_of_mem hf), ?_, hvalue⟩
  exact eqvKey_self hd hkey

mutual

/-- A sound value counts as one with itself. -/
theorem eqvItem_self : (v : Value) → v.isSound = true → eqvItem v v = .ok true
  | .seq _ items, h => by
    rw [eqvItem_eq (.inl rfl), eqv, if_pos ⟨rfl, rfl⟩]
    exact eqvAll_self items h
  | .set _ items, h => by
    rw [isSound, Bool.and_eq_true] at h
    rw [eqvItem_eq (.inl rfl), eqv, if_pos rfl]
    -- An element is found in the set behind others that it is told apart from.
    exact eachIn_self (forall_eqvItem_self items h.1) h.2
  | .map _ entries, h => by
    rw [isSound, Bool.and_eq_true] at h
    rw [eqvItem_eq (.inl rfl), eqv, if_pos rfl]
    exact eachEntryIn_self (forall_eqvEntry_self entries h.1) h.2
  | .header name value, h => by
    rw [isSound, Bool.and_eq_true] at h
    rw [eqvItem_eq (.inl rfl), eqv, andThen_eq_true]
    exact ⟨eqvItem_self name h.1, eqvItem_self value h.2⟩
  | .url u, _ => by
    rw [eqvItem_eq (.inl rfl), eqv, beq_self_eq_true]
  | .float x, h => (eqvItem_iff (.float x) (.float x) h h).2 rfl
  | .null, _ | .bool _, _ | .int _, _ | .text _, _ | .member _, _ | .bytes .., _ | .ref _, _ =>
    (eqvItem_iff _ _ rfl rfl).2 rfl

/-- Sound values count as one with themselves, one by one. -/
theorem eqvAll_self : (items : List Value) → areSound items = true → eqvAll items items = .ok true
  | [], _ => by rw [eqvAll]
  | v :: rest, h => by
    rw [areSound, Bool.and_eq_true] at h
    rw [eqvAll, andThen_eq_true]
    exact ⟨eqvItem_self v h.1, eqvAll_self rest h.2⟩

/-- Each of several sound values counts as one with itself. -/
theorem forall_eqvItem_self : (items : List Value) → areSound items = true →
    ∀ v ∈ items, eqvItem v v = .ok true
  | [], _ => fun _ hv => nomatch hv
  | v :: rest, h => by
    rw [areSound, Bool.and_eq_true] at h
    exact List.forall_mem_cons.2 ⟨eqvItem_self v h.1, forall_eqvItem_self rest h.2⟩

/-- Each key and each value of sound entries counts as one with itself. -/
theorem forall_eqvEntry_self : (entries : List (Value × Value)) → areSoundEntries entries = true →
    ∀ e ∈ entries, eqvItem e.1 e.1 = .ok true ∧ eqvItem e.2 e.2 = .ok true
  | [], _ => fun _ he => nomatch he
  | (k, v) :: rest, h => by
    rw [areSoundEntries, Bool.and_eq_true, Bool.and_eq_true] at h
    exact List.forall_mem_cons.2
      ⟨⟨eqvItem_self k h.1.1, eqvItem_self v h.1.2⟩, forall_eqvEntry_self rest h.2⟩

end

end Egress.Value
