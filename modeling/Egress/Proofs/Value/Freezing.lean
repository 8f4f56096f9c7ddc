import Egress.Proofs.Value.Plain
import Egress.Proofs.Value.Sound

/-!
# Frozen copies

What freezing does to a value. Nothing in a frozen copy can be changed, freezing it again leaves it
as it is, and it has the shape of the value: elements and keys are the same and in the same order.
Values that differ only in which of their containers can be changed have equal frozen copies.

A set of frozen elements could lose some of them, or refuse one, when it is put together. That this
does not happen is part of the statement: `refreeze` puts every set and every map together anew.

## Key results

- `Value.isFrozen_freeze`: nothing in a frozen copy can be changed
- `Value.freeze_freeze`: freezing is idempotent
- `Value.UpToAccess`: values that differ only in which containers can be changed
- `Value.upToAccess_freeze`: a frozen copy has the shape of the value
- `Value.refreeze_eq`: sets and maps of frozen copies keep all their elements
- `Value.eqvItem_freeze`: values that differ only in access have equal frozen copies
-/

namespace Egress.Value

/-! ### Values that cannot be changed -/

mutual

/-- Whether nothing in a value can be changed. What is known by its identity only may change. -/
def isFrozen : Value → Bool
  | .bytes access _ => access = .frozen
  | .seq access items => access = .frozen && areFrozen items
  | .set access items => access = .frozen && areFrozen items
  | .map access entries => access = .frozen && areFrozenEntries entries
  | .header name value => name.isFrozen && value.isFrozen
  | .ref _ => false
  | .null | .bool _ | .int _ | .float _ | .text _ | .member _ | .url _ => true

/-- Whether nothing in the values can be changed. -/
def areFrozen : List Value → Bool
  | [] => true
  | v :: rest => v.isFrozen && areFrozen rest

/-- Whether nothing in the keys and values can be changed. -/
def areFrozenEntries : List (Value × Value) → Bool
  | [] => true
  | (k, v) :: rest => k.isFrozen && v.isFrozen && areFrozenEntries rest

end

mutual

/-- What can be hashed cannot be changed. -/
theorem isFrozen_of_digest : (v : Value) → v.isPlain → {d : String} → v.digest = .ok d →
    v.isFrozen = true
  -- A frozen container has a digest only if what is in it has one.
  | .seq .frozen items, hplain, d, h => by
    obtain ⟨ds, hds, _⟩ := map_eq_ok.1 (by rwa [digest] at h)
    rw [isFrozen, areFrozen_of_digests items hplain hds]
    rfl
  | .set .frozen items, hplain, d, h => by
    obtain ⟨ds, hds, _⟩ := map_eq_ok.1 (by rwa [digest] at h)
    rw [isFrozen, areFrozen_of_digests items hplain hds]
    rfl
  | .bytes .frozen _, _, _, _ => rfl
  -- What can be changed, and every map, has no digest.
  | .seq .mutable _, _, _, h | .set .mutable _, _, _, h | .bytes .mutable _, _, _, h
  | .map .mutable _, _, _, h | .map .frozen _, _, _, h => by simp [digest] at h
  | .null, _, _, _ | .bool _, _, _, _ | .int _, _, _, _ | .float _, _, _, _ | .text _, _, _, _
  | .member _, _, _, _ | .url _, _, _, _ => rfl

/-- Values that can all be hashed cannot be changed. -/
theorem areFrozen_of_digests : (items : List Value) → areAllPlain items → {ds : List String} →
    digests items = .ok ds → areFrozen items = true
  | [], _, _, _ => rfl
  | v :: rest, hplain, ds, h => by
    rw [areAllPlain, Bool.and_eq_true] at hplain
    rw [digests] at h
    obtain ⟨d, hd, h⟩ := bind_eq_ok.1 h
    obtain ⟨ds', hds, _⟩ := bind_eq_ok.1 h
    rw [areFrozen, isFrozen_of_digest v hplain.1 hd, areFrozen_of_digests rest hplain.2 hds,
      Bool.and_self]

end

mutual

/-- Nothing in the frozen copy of a value can be changed. -/
theorem isFrozen_freeze : (v : Value) → v.isPlain → v.isSound = true → v.freeze.isFrozen = true
  | .seq _ items, hplain, h => by
    rw [freeze, isFrozen, areFrozen_freezeAll items hplain h]
    rfl
  | .set _ items, hplain, h => by
    -- The elements of a set can be hashed, so they are frozen already.
    rw [isSound, Bool.and_eq_true] at h
    obtain ⟨ds, hds⟩ := exists_digests_of_areApart h.2
    rw [freeze, freezeAll_of_areApart h.2, isFrozen, areFrozen_of_digests items hplain hds]
    rfl
  | .map _ entries, hplain, h => by
    -- The keys of a map can be hashed; its values are frozen one by one.
    rw [isSound, Bool.and_eq_true] at h
    obtain ⟨ds, hds⟩ := exists_digests_of_areApart h.2
    rw [freeze, isFrozen, areFrozenEntries_freezeEntries entries hplain h.1 hds]
    rfl
  | .bytes .., _, _ => rfl
  | .null, _, _ | .bool _, _, _ | .int _, _, _ | .float _, _, _ | .text _, _, _ | .member _, _, _
  | .url _, _, _ => rfl

/-- Nothing in the frozen copies of values can be changed. -/
theorem areFrozen_freezeAll : (items : List Value) → areAllPlain items → areSound items = true →
    areFrozen (freezeAll items) = true
  | [], _, _ => rfl
  | v :: rest, hplain, h => by
    rw [areAllPlain, Bool.and_eq_true] at hplain
    rw [areSound, Bool.and_eq_true] at h
    rw [freezeAll, areFrozen, isFrozen_freeze v hplain.1 h.1,
      areFrozen_freezeAll rest hplain.2 h.2, Bool.and_self]

/-- Nothing in frozen entries can be changed: their keys can be hashed, and their values are
copies. -/
theorem areFrozenEntries_freezeEntries : (entries : List (Value × Value)) →
    arePlainEntries entries → areSoundEntries entries = true → {ds : List String} →
    digests (entries.map (·.1)) = .ok ds → areFrozenEntries (freezeEntries entries) = true
  | [], _, _, _, _ => rfl
  | (k, v) :: rest, hplain, h, ds, hds => by
    rw [arePlainEntries, Bool.and_eq_true, Bool.and_eq_true] at hplain
    rw [areSoundEntries, Bool.and_eq_true, Bool.and_eq_true] at h
    rw [List.map_cons, digests] at hds
    -- The key has a digest, so it is frozen; the value is a frozen copy.
    obtain ⟨d, hd, hds⟩ := bind_eq_ok.1 hds
    obtain ⟨ds', hds, _⟩ := bind_eq_ok.1 hds
    rw [freezeEntries, areFrozenEntries, isFrozen_of_digest k hplain.1.1 hd,
      isFrozen_freeze v hplain.1.2 h.1.2, areFrozenEntries_freezeEntries rest hplain.2 h.2 hds]
    rfl

end

/-! ### Freezing twice -/

mutual

/-- A frozen copy is its own frozen copy. -/
theorem freeze_freeze : (v : Value) → v.freeze.freeze = v.freeze
  | .seq _ items => by rw [freeze, freeze, freezeAll_freezeAll items]
  | .set _ items => by rw [freeze, freeze, freezeAll_freezeAll items]
  | .map _ entries => by rw [freeze, freeze, freezeEntries_freezeEntries entries]
  | .bytes .. | .null | .bool _ | .int _ | .float _ | .text _ | .member _ | .url _ | .header ..
  | .ref _ => rfl

/-- Freezing values again gives the same copies. -/
theorem freezeAll_freezeAll : (items : List Value) →
    freezeAll (freezeAll items) = freezeAll items
  | [] => rfl
  | v :: rest => by rw [freezeAll, freezeAll, freeze_freeze v, freezeAll_freezeAll rest]

/-- Freezing entries again gives the same copies. -/
theorem freezeEntries_freezeEntries : (entries : List (Value × Value)) →
    freezeEntries (freezeEntries entries) = freezeEntries entries
  | [] => rfl
  | (k, v) :: rest => by
    rw [freezeEntries, freezeEntries, freeze_freeze v, freezeEntries_freezeEntries rest]

end

/-! ### Values up to access -/

mutual

/-- Two values differ only in which of their containers can be changed, outside the elements of sets
and the keys of maps. The elements of a set may be listed in another order. -/
inductive UpToAccess : Value → Value → Prop where
  | same (v : Value) : UpToAccess v v
  | bytes {access access' : Access} {data : List UInt8} :
    UpToAccess (.bytes access data) (.bytes access' data)
  -- The same elements, in the same order.
  | seq {access access' : Access} {items items' : List Value} (h : AllUpToAccess items items') :
    UpToAccess (.seq access items) (.seq access' items')
  -- The same elements, in any order.
  | set {access access' : Access} {items items' : List Value} (h : items.Perm items') :
    UpToAccess (.set access items) (.set access' items')
  -- The same keys, in the same order.
  | map {access access' : Access} {entries entries' : List (Value × Value)}
    (h : EntriesUpToAccess entries entries') :
    UpToAccess (.map access entries) (.map access' entries')

/-- As many values, each of which differs in access only. -/
inductive AllUpToAccess : List Value → List Value → Prop where
  | nil : AllUpToAccess [] []
  | cons {v w : Value} {rest rest' : List Value} (first : UpToAccess v w)
    (others : AllUpToAccess rest rest') : AllUpToAccess (v :: rest) (w :: rest')

/-- The same keys in the same order, with values that differ in access only. -/
inductive EntriesUpToAccess : List (Value × Value) → List (Value × Value) → Prop where
  | nil : EntriesUpToAccess [] []
  | cons {k v w : Value} {rest rest' : List (Value × Value)} (first : UpToAccess v w)
    (others : EntriesUpToAccess rest rest') : EntriesUpToAccess ((k, v) :: rest) ((k, w) :: rest')

end

mutual

/-- A frozen copy differs from the value in access only: no element or key is lost, merged, added or
moved. -/
theorem upToAccess_freeze : (v : Value) → v.isSound = true → UpToAccess v v.freeze
  | .seq _ items, h => .seq (allUpToAccess_freezeAll items h)
  -- The elements of a set are frozen already, so they stay the same.
  | .set _ items, h => by
    rw [isSound, Bool.and_eq_true] at h
    rw [freeze, freezeAll_of_areApart h.2]
    exact .set (.refl items)
  | .map _ entries, h => by
    rw [isSound, Bool.and_eq_true] at h
    exact .map (entriesUpToAccess_freezeEntries entries h.1)
  | .bytes .., _ => .bytes
  | .null, _ | .bool _, _ | .int _, _ | .float _, _ | .text _, _ | .member _, _ | .url _, _
  | .header .., _ | .ref _, _ => .same _

/-- Values differ from their frozen copies in access only. -/
theorem allUpToAccess_freezeAll : (items : List Value) → areSound items = true →
    AllUpToAccess items (freezeAll items)
  | [], _ => .nil
  | v :: rest, h => by
    rw [areSound, Bool.and_eq_true] at h
    exact .cons (upToAccess_freeze v h.1) (allUpToAccess_freezeAll rest h.2)

/-- Entries differ from their frozen copies in access only. -/
theorem entriesUpToAccess_freezeEntries : (entries : List (Value × Value)) →
    areSoundEntries entries = true → EntriesUpToAccess entries (freezeEntries entries)
  | [], _ => .nil
  | (k, v) :: rest, h => by
    rw [areSoundEntries, Bool.and_eq_true, Bool.and_eq_true] at h
    exact .cons (upToAccess_freeze v h.1.2) (entriesUpToAccess_freezeEntries rest h.2)

end

/-- Values that differ in access only are as many. -/
theorem AllUpToAccess.length_eq {items items' : List Value} (h : AllUpToAccess items items') :
    items.length = items'.length := by
  induction items generalizing items' with
  | nil => cases h; rfl
  | cons v rest ih =>
    cases h with
    | cons _ others => rw [List.length_cons, List.length_cons, ih others]

/-- Entries that differ in access only have the same keys. -/
theorem EntriesUpToAccess.map_fst_eq {entries entries' : List (Value × Value)}
    (h : EntriesUpToAccess entries entries') : entries.map (·.1) = entries'.map (·.1) := by
  induction entries generalizing entries' with
  | nil => cases h; rfl
  | cons e rest ih =>
    cases h with
    | cons _ others => rw [List.map_cons, List.map_cons, ih others]

/-! ### Equal frozen copies -/

/-- A set is equal to another one that lists its elements in another order. -/
theorem eachIn_of_perm {items items' : List Value} (h : items.Perm items')
    (hself : ∀ v ∈ items, eqvItem v v = .ok true) (hapart : areApart items = true) :
    eachIn items items' = .ok true := by
  refine eachIn_of_forall fun v hv => ?_
  have hapart' := areApart_of_perm h hapart
  obtain ⟨before, after, rfl⟩ := List.append_of_mem (h.mem_iff.1 hv)
  obtain ⟨⟨d, hd⟩, hbefore⟩ := areApart_split hapart'
  exact anyOf_of_split hbefore (eqvKey_self hd (hself v hv))

/-- A map is equal to another one with its keys, if the values under each key count as one. -/
theorem eachEntryIn_of_map_fst_eq {p q : List (Value × Value)}
    (hkeys : ∀ e ∈ p, eqvItem e.1 e.1 = .ok true) (hapart : areApart (q.map (·.1)) = true)
    (h : ∀ e ∈ p, ∃ f ∈ q, e.1 = f.1 ∧ eqvItem e.2 f.2 = .ok true) :
    eachEntryIn p q = .ok true := by
  refine eachEntryIn_of_isMet fun e he => ?_
  obtain ⟨f, hf, hname, hvalue⟩ := h e he
  obtain ⟨before, after, rfl⟩ := List.append_of_mem hf
  rw [List.map_append, List.map_cons, ← hname] at hapart
  -- The key is found in the other map, behind keys that it is told apart from.
  obtain ⟨⟨d, hd⟩, hbefore⟩ := areApart_split hapart
  refine ⟨before, f, after, rfl, fun g hg => hbefore g.1 (List.mem_map_of_mem hg), ?_, hvalue⟩
  rw [← hname]
  exact eqvKey_self hd (hkeys e he)

mutual

/-- Values that differ in access only have equal frozen copies. -/
theorem eqvItem_freeze : (v : Value) → {w : Value} → v.isSound = true → UpToAccess v w →
    eqvItem v.freeze w.freeze = .ok true
  | v, _, h, .same _ => eqvItem_self v.freeze (isSound_freeze v h)
  | .bytes access data, _, _, .bytes => eqvItem_self (.bytes .frozen data) rfl
  | .seq _ items, .seq _ items', h, .seq hitems => by
    have hlength : (freezeAll items).length = (freezeAll items').length := by
      rw [freezeAll_eq_map, freezeAll_eq_map, List.length_map, List.length_map, hitems.length_eq]
    rw [freeze, freeze, eqvItem_eq (.inl rfl), eqv, if_pos ⟨rfl, hlength⟩]
    exact eqvAll_freezeAll items h hitems
  -- The elements of a set are their own frozen copies, in whatever order they are.
  | .set _ items, _, h, .set hperm => by
    rw [isSound, Bool.and_eq_true, areSound_iff] at h
    rw [freeze, freeze, freezeAll_of_areApart h.2,
      freezeAll_of_areApart (areApart_of_perm hperm h.2), eqvItem_eq (.inl rfl), eqv,
      if_pos hperm.length_eq]
    exact eachIn_of_perm hperm (fun v hv => eqvItem_self v (h.1 v hv)) h.2
  | .map _ entries, .map _ entries', h, .map hentries => by
    rw [isSound, Bool.and_eq_true] at h
    have hlength : (freezeEntries entries).length = (freezeEntries entries').length := by
      -- Maps that differ in access only have the same keys, so they are as long.
      have hkeys := congrArg List.length hentries.map_fst_eq
      rw [List.length_map, List.length_map] at hkeys
      rw [freezeEntries_eq_map, freezeEntries_eq_map, List.length_map, List.length_map, hkeys]
    rw [freeze, freeze, eqvItem_eq (.inl rfl), eqv, if_pos hlength]
    refine eachEntryIn_of_map_fst_eq (fun e he => ?_) ?_ (exists_freezeEntries entries h.1 hentries)
    · exact (forall_eqvEntry_self _ (areSoundEntries_freezeEntries entries h.1) e he).1
    · rw [map_fst_freezeEntries, ← hentries.map_fst_eq]
      exact h.2

/-- Frozen copies of values that differ in access only are equal one by one. -/
theorem eqvAll_freezeAll : (items : List Value) → {items' : List Value} → areSound items = true →
    AllUpToAccess items items' → eqvAll (freezeAll items) (freezeAll items') = .ok true
  | [], _, _, .nil => by rw [freezeAll, eqvAll]
  | v :: rest, _, h, .cons first others => by
    rw [areSound, Bool.and_eq_true] at h
    rw [freezeAll, freezeAll, eqvAll, andThen_eq_true]
    exact ⟨eqvItem_freeze v h.1 first, eqvAll_freezeAll rest h.2 others⟩

/-- Each frozen entry has one with the same key and an equal value among the others. -/
theorem exists_freezeEntries : (entries : List (Value × Value)) →
    {entries' : List (Value × Value)} → areSoundEntries entries = true →
    EntriesUpToAccess entries entries' → ∀ e ∈ freezeEntries entries,
      ∃ f ∈ freezeEntries entries', e.1 = f.1 ∧ eqvItem e.2 f.2 = .ok true
  | [], _, _, .nil => fun e he => nomatch he
  | (k, v) :: rest, _, h, .cons first others => by
    rw [areSoundEntries, Bool.and_eq_true, Bool.and_eq_true] at h
    intro e he
    rcases List.mem_cons.1 he with rfl | he
    -- The first of each stand beside each other, and the others by induction.
    · exact ⟨_, List.mem_cons_self, rfl, eqvItem_freeze v h.1.2 first⟩
    · obtain ⟨f, hf, hname, hvalue⟩ := exists_freezeEntries rest h.2 others e he
      exact ⟨f, List.mem_cons_of_mem _ hf, hname, hvalue⟩

end

/-- Values that count as one are equal, unless they are the same thing that is no number. -/
theorem eqv_of_eqvItem {a b : Value} (h : eqvItem a b = .ok true)
    (hnan : ∀ p, a ≠ .float (.nan p)) : eqv a b = .ok true := by
  rw [eqvItem, if_neg ?_] at h
  · exact h
  · unfold sameNan
    split
    · rename_i p _
      exact absurd rfl (hnan p)
    · exact Bool.false_ne_true

/-! ### Containers put together anew -/

mutual

/-- The value with every container put together anew from the frozen copies of its elements, as a
tuple, a frozen set or a read-only map. Sets and maps refuse what cannot be hashed, and keep one of
what counts as one. -/
def refreeze : Value → Except Unhashable Value
  | .map _ entries => do
    let entries ← refreezeEntries entries
    return .map .frozen (← toEntries entries)
  | .seq _ items => do return .seq .frozen (← refreezeAll items)
  | .set _ items => do
    let items ← refreezeAll items
    return .set .frozen (← toItems items)
  | .bytes _ data => .ok (.bytes .frozen data)
  | v => .ok v

/-- The values with every container put together anew. -/
def refreezeAll : List Value → Except Unhashable (List Value)
  | [] => .ok []
  | v :: rest => do
    let v ← v.refreeze
    return v :: (← refreezeAll rest)

/-- The entries with every container among their values put together anew. -/
def refreezeEntries : List (Value × Value) → Except Unhashable (List (Value × Value))
  | [] => .ok []
  | (k, v) :: rest => do
    let v ← v.refreeze
    return (k, v) :: (← refreezeEntries rest)

end

/-- What is told apart from all before it is added after them. -/
theorem foldl_eq_append {R : α → α → Prop} {add : List α → α → List α}
    (hadd : ∀ acc a, (∀ b ∈ acc, R b a) → add acc a = acc ++ [a]) {items acc : List α}
    (hacc : ∀ a ∈ acc, ∀ b ∈ items, R a b) (h : items.Pairwise R) :
    items.foldl add acc = acc ++ items := by
  induction items generalizing acc with
  | nil => rw [List.foldl_nil, List.append_nil]
  | cons a rest ih =>
    obtain ⟨hfirst, hrest⟩ := List.pairwise_cons.1 h
    rw [List.foldl_cons, hadd acc a fun b hb => hacc b hb a List.mem_cons_self, ih ?_ hrest,
      List.append_assoc, List.singleton_append]
    -- The element that was added is apart from the rest, as those before it are.
    intro b hb c hc
    rcases List.mem_append.1 hb with hb | hb
    · exact hacc b hb c (List.mem_cons_of_mem a hc)
    · rw [List.mem_singleton.1 hb]
      exact hfirst c hc

/-- A set keeps all elements that are told apart. -/
theorem toItems_of_areApart {items : List Value} (h : areApart items = true) :
    toItems items = .ok items := by
  obtain ⟨ds, hds⟩ := exists_digests_of_areApart h
  have hpairs := (areApart_iff.1 h).2.imp fun h => sameKey_of_eqvKey h.1
  have hadd : ∀ acc v, (∀ w ∈ acc, sameKey w v = false) → addItem acc v = acc ++ [v] := by
    intro acc v hv
    rw [addItem, if_neg]
    simpa using hv
  rw [toItems, hds, Except.map, foldl_eq_append hadd (List.forall_mem_nil _) hpairs,
    List.nil_append]

/-- A map keeps all entries whose keys are told apart. -/
theorem toEntries_of_areApart {entries : List (Value × Value)}
    (h : areApart (entries.map (·.1)) = true) : toEntries entries = .ok entries := by
  obtain ⟨ds, hds⟩ := exists_digests_of_areApart h
  -- Keys that are told apart have entries of their own.
  have hpairs := (areApart_iff.1 h).2.imp fun h => sameKey_of_eqvKey h.1
  have hput : ∀ (acc : List (Value × Value)) e, (∀ f ∈ acc, sameKey f.1 e.1 = false) →
      putEntry acc e.1 e.2 = acc ++ [e] := by
    intro acc e he
    rw [putEntry, if_neg]
    simpa using he
  rw [toEntries, hds, Except.map, putAll,
    foldl_eq_append hput (List.forall_mem_nil _) (List.pairwise_map.1 hpairs), List.nil_append]

mutual

/-- Containers put together anew are the frozen copies: nothing is refused, lost or merged. -/
theorem refreeze_eq : (v : Value) → v.isSound = true → v.refreeze = .ok v.freeze
  | .seq _ items, h => by
    rw [refreeze, refreezeAll_eq items h]
    rfl
  | .set _ items, h => by
    rw [isSound, Bool.and_eq_true] at h
    rw [refreeze, refreezeAll_eq items h.1, freeze, freezeAll_of_areApart h.2]
    -- The frozen elements are told apart, so none is dropped while they are added.
    show (toItems items).bind _ = _
    rw [toItems_of_areApart h.2]
    rfl
  | .map _ entries, h => by
    rw [isSound, Bool.and_eq_true] at h
    rw [refreeze, refreezeEntries_eq entries h.1, freeze]
    -- The keys are told apart, so none replaces another.
    show (toEntries (freezeEntries entries)).bind _ = _
    rw [toEntries_of_areApart ((map_fst_freezeEntries entries).symm ▸ h.2)]
    rfl
  | .bytes .., _ => rfl
  | .null, _ | .bool _, _ | .int _, _ | .float _, _ | .text _, _ | .member _, _ | .url _, _
  | .header .., _ | .ref _, _ => rfl

/-- Values put together anew are their frozen copies. -/
theorem refreezeAll_eq : (items : List Value) → areSound items = true →
    refreezeAll items = .ok (freezeAll items)
  | [], _ => rfl
  | v :: rest, h => by
    rw [areSound, Bool.and_eq_true] at h
    rw [refreezeAll, refreeze_eq v h.1, refreezeAll_eq rest h.2]
    rfl

/-- Entries put together anew are their frozen copies. -/
theorem refreezeEntries_eq : (entries : List (Value × Value)) → areSoundEntries entries = true →
    refreezeEntries entries = .ok (freezeEntries entries)
  | [], _ => rfl
  | (k, v) :: rest, h => by
    rw [areSoundEntries, Bool.and_eq_true, Bool.and_eq_true] at h
    rw [refreezeEntries, refreeze_eq v h.1.2, refreezeEntries_eq rest h.2]
    rfl

end

end Egress.Value
