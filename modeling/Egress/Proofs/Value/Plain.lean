import Egress.Property.Store
import Egress.Proofs.Outcome

/-!
# Plain values

A value is plain when it is made of scalars and containers only: it holds no header and nothing that
is known by its identity. Freezing, typed reads, conversions and lookups lead from plain values to
plain values, so nothing that is read from a store of plain values leads anywhere else. A header
with texts (`isTextHeader`) leads nowhere either.
-/

namespace Egress

namespace Value

mutual

/-- Whether a value is made of scalars and containers. -/
def isPlain : Value → Bool
  | .seq _ items => areAllPlain items
  | .set _ items => areAllPlain items
  | .map _ entries => arePlainEntries entries
  | .header .. | .ref _ => false
  | .null | .bool _ | .int _ | .float _ | .text _ | .member _ | .bytes .. | .url _ => true

/-- Whether values are made of scalars and containers. -/
def areAllPlain : List Value → Bool
  | [] => true
  | v :: rest => v.isPlain && areAllPlain rest

/-- Whether keys and values are made of scalars and containers. -/
def arePlainEntries : List (Value × Value) → Bool
  | [] => true
  | (k, v) :: rest => k.isPlain && v.isPlain && arePlainEntries rest

end

/-- Whether a value is a header with a text as its name and a text as its value. -/
def isTextHeader : Value → Bool
  | .header name value => name.text?.isSome && value.text?.isSome
  | _ => false

/-- The texts of a header with texts. -/
def headerTexts? : Value → Option (String × String)
  | .header name value => name.text?.bind fun n => value.text?.map fun v => (n, v)
  | _ => none

variable {items : List Value} {entries : List (Value × Value)} {k v w : Value}

/-- Values are plain when each is. -/
theorem areAllPlain_iff : areAllPlain items ↔ ∀ v ∈ items, v.isPlain := by
  induction items with
  | nil => simp [areAllPlain]
  | cons v rest ih => simp [areAllPlain, ih]

/-- Entries are plain when each key and each value is. -/
theorem arePlainEntries_iff :
    arePlainEntries entries ↔ ∀ e ∈ entries, e.1.isPlain ∧ e.2.isPlain := by
  induction entries with
  | nil => simp [arePlainEntries]
  | cons e rest ih =>
    obtain ⟨k, v⟩ := e
    simp [arePlainEntries, ih, and_assoc]

/-- The entries of a plain value are plain. -/
theorem arePlainEntries_entries (h : v.isPlain) : arePlainEntries v.entries := by
  cases v with
  | map _ entries => exact h
  | _ => rfl

/-! ## Freezing -/

mutual

/-- A frozen copy is plain when the value is. -/
theorem isPlain_freeze : (v : Value) → v.freeze.isPlain = v.isPlain
  | .seq _ items => by simp only [freeze, isPlain, areAllPlain_freezeAll items]
  | .set _ items => by simp only [freeze, isPlain, areAllPlain_freezeAll items]
  | .map _ entries => by simp only [freeze, isPlain, arePlainEntries_freezeEntries entries]
  | .null | .bool _ | .int _ | .float _ | .text _ | .member _ | .bytes .. | .url _ | .header ..
  | .ref _ => rfl

/-- Freezing values makes none plain and keeps all that are. -/
theorem areAllPlain_freezeAll :
    (items : List Value) → areAllPlain (freezeAll items) = areAllPlain items
  | [] => rfl
  | v :: rest => by
    simp only [freezeAll, areAllPlain, isPlain_freeze v, areAllPlain_freezeAll rest]

/-- Freezing entries makes none plain and keeps all that are. -/
theorem arePlainEntries_freezeEntries : (entries : List (Value × Value)) →
    arePlainEntries (freezeEntries entries) = arePlainEntries entries
  | [] => rfl
  | (k, v) :: rest => by
    simp only [freezeEntries, arePlainEntries, isPlain_freeze v,
      arePlainEntries_freezeEntries rest]

end

/-! ## Sets and maps -/

/-- What is found in plain entries is plain. -/
theorem isPlain_of_entry? (h : arePlainEntries entries) (hv : entry? entries k = some v) :
    v.isPlain := by
  obtain ⟨e, he, rfl⟩ := Option.map_eq_some_iff.mp hv
  exact (arePlainEntries_iff.mp h e (List.mem_of_find?_eq_some he)).2

/-- Elements stay plain when a plain one is added. -/
theorem areAllPlain_addItem (h : areAllPlain items) (hv : v.isPlain) :
    areAllPlain (addItem items v) := by
  unfold addItem
  split
  · exact h
  · rw [areAllPlain_iff] at h ⊢
    simpa [or_imp, forall_and] using ⟨h, hv⟩

/-- Elements stay plain when plain ones are added. -/
theorem areAllPlain_foldl_addItem {new : List Value} (h : areAllPlain items)
    (hn : areAllPlain new) : areAllPlain (new.foldl addItem items) :=
  List.foldlRecOn (motive := fun l => areAllPlain l = true) new _ h fun _ hm v hv =>
    areAllPlain_addItem hm (areAllPlain_iff.mp hn v hv)

/-- The elements of a set of plain values are plain. -/
theorem areAllPlain_of_toItems {r : List Value} (h : areAllPlain items)
    (hr : toItems items = .ok r) : areAllPlain r := by
  obtain ⟨_, _, rfl⟩ := map_eq_ok.mp hr
  exact areAllPlain_foldl_addItem rfl h

/-- What holds of all keys and of all values still does when a value is put under a key. -/
theorem forall_mem_putEntry {P Q : Value → Prop} (h : ∀ e ∈ entries, P e.1 ∧ Q e.2) (hk : P k)
    (hv : Q v) : ∀ e ∈ putEntry entries k v, P e.1 ∧ Q e.2 := by
  intro e he
  unfold putEntry at he
  -- The value replaces those under the key, or comes behind all entries.
  split at he
  · obtain ⟨e₀, he₀, rfl⟩ := List.mem_map.mp he
    have h₀ := h e₀ he₀
    split
    · exact ⟨h₀.1, hv⟩
    · exact h₀
  · rcases List.mem_append.mp he with he | he
    · exact h e he
    · rw [List.mem_singleton.mp he]
      exact ⟨hk, hv⟩

/-- What holds of all keys still does when a value is put under such a key. -/
theorem forall_fst_putEntry {P : Value → Prop} (h : ∀ e ∈ entries, P e.1) (hk : P k) :
    ∀ e ∈ putEntry entries k v, P e.1 := fun e he =>
  (forall_mem_putEntry (Q := fun _ => True) (fun e he => ⟨h e he, trivial⟩) hk trivial e he).1

/-- What holds of all values still does when such a value is put under a key. -/
theorem forall_snd_putEntry {Q : Value → Prop} (h : ∀ e ∈ entries, Q e.2) (hv : Q v) :
    ∀ e ∈ putEntry entries k v, Q e.2 := fun e he =>
  (forall_mem_putEntry (P := fun _ => True) (fun e he => ⟨trivial, h e he⟩) trivial hv e he).2

/-- Entries stay plain when a plain value is put under a plain key. -/
theorem arePlainEntries_putEntry (h : arePlainEntries entries) (hk : k.isPlain)
    (hv : v.isPlain) : arePlainEntries (putEntry entries k v) := by
  rw [arePlainEntries_iff] at h ⊢
  exact forall_mem_putEntry (P := (·.isPlain)) (Q := (·.isPlain)) h hk hv

/-- Entries stay plain when plain entries are put into them. -/
theorem arePlainEntries_foldl_putEntry {new : List (Value × Value)} (h : arePlainEntries entries)
    (hn : arePlainEntries new) :
    arePlainEntries (new.foldl (fun m e => putEntry m e.1 e.2) entries) := by
  refine List.foldlRecOn (motive := fun m => arePlainEntries m = true) new _ h fun _ hm e he => ?_
  have hplain := arePlainEntries_iff.mp hn e he
  exact arePlainEntries_putEntry hm hplain.1 hplain.2

/-- Plain entries put into a map one after the other are plain. -/
theorem arePlainEntries_putAll (h : arePlainEntries entries) : arePlainEntries (putAll entries) :=
  arePlainEntries_foldl_putEntry rfl h

/-- The elements of a plain value are plain. -/
theorem areAllPlain_of_elements? (h : v.isPlain) (hi : v.elements? = some items) :
    areAllPlain items := by
  rw [areAllPlain_iff]
  intro x hx
  cases v with
  -- The elements of a text or of bytes are texts or numbers, which are plain.
  | text s | member m | bytes _ data =>
    obtain rfl := Option.some.inj hi
    obtain ⟨_, _, rfl⟩ := List.mem_map.mp hx
    rfl
  | seq _ l | set _ l =>
    obtain rfl := Option.some.inj hi
    exact areAllPlain_iff.mp h x hx
  | map _ l =>
    obtain rfl := Option.some.inj hi
    obtain ⟨e, he, rfl⟩ := List.mem_map.mp hx
    exact (arePlainEntries_iff.mp h e he).1
  | _ => cases hi

end Value

/-! ## Typed reads and conversions -/

namespace PropertyType

open Value

variable {v w : Value}

theorem areAllPlain_of_elements? {items : List Value} (h : v.isPlain)
    (hi : PropertyType.elements? v = some items) : areAllPlain items := by
  cases v with
  | seq _ l | set _ l =>
    obtain rfl := Option.some.inj hi
    exact h
  | _ => cases hi

/-- The elements of a set that is read from a plain value are plain. -/
theorem areAllPlain_of_readSet {fault : TypeFault} {items : List Value} (h : v.isPlain)
    (hr : readSet fault v = .ok items) : areAllPlain items := by
  unfold readSet at hr
  split at hr
  · cases hr
  · rename_i hi
    split at hr
    · rename_i ht
      cases hr
      exact areAllPlain_of_toItems (areAllPlain_of_elements? h hi) ht
    · cases hr

/-- A member of an enumeration that is read is plain. -/
theorem isPlain_of_readMember {members : List Member} {fault : TypeFault}
    (hr : readMember members fault v = .ok w) : w.isPlain := by
  unfold readMember at hr
  split at hr
  · split at hr
    · cases hr
      rfl
    · cases hr
  · split at hr
    · split at hr
      · cases hr
        rfl
      · cases hr
    · cases hr

/-- A value that is read at a type is plain when the raw value is. -/
theorem isPlain_of_read {t : PropertyType} (h : v.isPlain) (hr : t.read v = .ok w) :
    w.isPlain := by
  induction t generalizing v w with
  -- A type without parts gives a value without parts.
  | text | integer | float | truth | bytes =>
    obtain ⟨_, _, rfl⟩ := map_eq_ok.mp hr
    rfl
  | any =>
    cases hr
    exact h
  | list element ih =>
    unfold read at hr
    split at hr
    · rename_i items hi
      obtain ⟨read, hread, rfl⟩ := map_eq_ok.mp hr
      have hitems := areAllPlain_iff.mp (areAllPlain_of_elements? h hi)
      show areAllPlain read
      rw [areAllPlain_iff]
      intro y hy
      -- Each element of the list is read from one of the raw value.
      obtain ⟨x, hx, hxy⟩ := exists_of_mem_mapM hread hy
      exact ih (hitems x hx) hxy
    · cases hr
  | tuple =>
    unfold read at hr
    split at hr
    · rename_i items hi
      cases hr
      exact areAllPlain_of_elements? h hi
    · cases hr
  | set | frozenSet =>
    obtain ⟨items, hi, rfl⟩ := map_eq_ok.mp hr
    exact areAllPlain_of_readSet h hi
  | map key value ihk ihv =>
    unfold read at hr
    split at hr
    · rename_i entries
      obtain ⟨read, hread, rfl⟩ := map_eq_ok.mp hr
      have hentries := arePlainEntries_iff.mp h
      apply arePlainEntries_putAll
      rw [arePlainEntries_iff]
      intro y hy
      -- So are each key and each value of the map.
      obtain ⟨x, hx, hxy⟩ := exists_of_mem_mapM hread hy
      obtain ⟨k, hk, hxy⟩ := bind_eq_ok.mp hxy
      obtain ⟨x', hx', rfl⟩ := map_eq_ok.mp hxy
      exact ⟨ihk (hentries x hx).1 hk, ihv (hentries x hx).2 hx'⟩
    · cases hr
  | optional type ih =>
    unfold read at hr
    split at hr
    · cases hr
      rfl
    · exact ih h hr
  | proxyType | authenticationType => exact isPlain_of_readMember hr

end PropertyType

/-- What a key reads from a plain value is plain. -/
theorem PropertyKey.isPlain_of_read {k : PropertyKey} {v w : Value} (h : v.isPlain)
    (hr : k.read v = .ok w) : w.isPlain := by
  unfold PropertyKey.read at hr
  split at hr
  · rename_i ht
    cases hr
    exact PropertyType.isPlain_of_read h ht
  · cases hr

namespace Conversion

variable {v w : Value}

/-- An integer that is read from a text is plain. -/
theorem isPlain_of_ofIntText {shown : String} {r : Except Number.IntFault Int}
    (h : ofIntText shown r = .ok w) : w.isPlain := by
  unfold ofIntText at h
  split at h <;> cases h
  rfl

/-- A conversion to an integer gives a plain value. -/
theorem isPlain_of_toInteger (h : toInteger v = .ok w) : w.isPlain := by
  -- Texts and bytes are read as the text of an integer, numbers are cut off.
  unfold toInteger at h
  split at h
  · cases h; rfl
  · cases h; rfl
  · split at h <;> cases h
    rfl
  · exact isPlain_of_ofIntText h
  · exact isPlain_of_ofIntText h
  · split at h
    · exact isPlain_of_ofIntText h
    · cases h
  · cases h

/-- A number that is read from a text is plain. -/
theorem isPlain_of_ofFloatText {shown : String} {s : List Char} (h : ofFloatText shown s = .ok w) :
    w.isPlain := by
  unfold ofFloatText at h
  split at h <;> cases h
  rfl

/-- A conversion to a number gives a plain value. -/
theorem isPlain_of_toFloat (h : toFloat v = .ok w) : w.isPlain := by
  -- Texts and bytes are read as the text of a number.
  unfold toFloat at h
  split at h
  · cases h; rfl
  · dsimp only at h
    split at h <;> cases h
    rfl
  · cases h; rfl
  · exact isPlain_of_ofFloatText h
  · exact isPlain_of_ofFloatText h
  · exact isPlain_of_ofFloatText h
  · cases h

/-- What a conversion makes of a plain value is plain. -/
theorem isPlain_of_apply {f : Conversion} (hv : v.isPlain) (h : f.apply v = .ok w) :
    w.isPlain := by
  cases f with
  | integer => exact isPlain_of_toInteger h
  | text | truth => cases h; rfl
  | float => exact isPlain_of_toFloat h
  | length =>
    -- Only a length can fail here, and it is a number.
    simp only [apply] at h
    split at h <;> cases h
    rfl
  | list =>
    simp only [apply] at h
    split at h
    · rename_i items hi
      cases h
      exact Value.areAllPlain_of_elements? hv hi
    · cases h
  | upper =>
    cases v with
    | text s | member m | bytes _ data => cases h; rfl
    | _ => cases h

end Conversion

end Egress
