import Egress.Proofs.Session.Snapshot
import Egress.Proofs.Value.Freezing

/-!
# Copies of stores

A store hands out its entries as a dictionary, whose values are the frozen copies that it holds. A
store that is made of this dictionary freezes them once more, and is equal to the first, with the
same names in the same order.

## Key results

- `Session.create_of_asDict`: a store and its dictionary
- `Session.freeze_faithful`: what freezing does to values and to stores
-/

namespace Egress

open Value

/-- The store of a frozen store's entries is that store. -/
theorem Properties.ofEntries_entries (entries : List (Value × Value)) :
    ofEntries (ofEntries entries).entries = ofEntries entries := by
  rw [ofEntries, ofEntries, freezeEntries_freezeEntries]

/-- A store of sound values is equal to itself. -/
theorem Properties.eqv_self {entries : List (Value × Value)}
    (h : (Value.map .mutable entries).isSound = true) :
    (ofEntries entries).eqv (ofEntries entries) = .ok true := by
  have hself := eqvItem_self _ (isSound_freeze (Value.map .mutable entries) h)
  rw [freeze, eqvItem_eq (.inl rfl), Value.eqv] at hself
  rw [Properties.eqv, ofEntries, Value.eqv]
  exact hself

namespace Session

variable {s : State}

/-- A plain store is written out as a dictionary that shows its entries, and what is made of the
dictionary is the store of these entries. -/
theorem create_of_asDict {self : Value} {p : Properties}
    (hself : s.object? self = some (.properties p)) (hplain : p.isPlain) :
    ∃ dict t copy u, (call .asDict self []).run.run s = (.ok (.value dict), t) ∧
      (create .properties [dict]).run.run t = (.ok copy, u) ∧
      u.object? copy = some (.properties (.ofEntries p.entries)) := by
  obtain ⟨dict, new, hplace, hshows⟩ := place_eq (.map .mutable p.entries) hplain s
  have hcall : (call .asDict self []).run.run s = (.ok (.value dict), s.extend new) := by
    rw [call_properties hself, callProperties, bind_eq_of_ok hplace]
    rfl
  -- The dictionary shows the entries as soon as its containers are there.
  have hresolve : (s.extend new).resolve dict = .map .mutable p.entries := by
    refine hshows (s.extend new) [] ?_ _ ?_
    · rw [List.append_nil]
      rfl
    · show new.length ≤ (s.objects ++ new).length
      rw [List.length_append]
      omega
  -- The store is made of what the dictionary shows, which the equation replaces by the entries.
  refine ⟨dict, s.extend new, _, _, hcall, rfl, ?_⟩
  have hmade := (s.extend new).object?_add_self
    (.properties (.ofEntries ((s.extend new).resolve dict).entries))
  rw [hresolve] at hmade
  refine Eq.trans ?_ hmade
  rw [← hresolve]
  rfl

/-- Freezing a value of scalars and containers leaves nothing in it that can be changed, and changes
nothing when it is repeated. The frozen copy has the shape of the value, and no set or map loses,
merges or refuses anything when it is put together. Values that differ in access only have equal
frozen copies. So a store is equal to the one that is made of it as a dictionary, and has the same
names in the same order. -/
theorem freeze_faithful :
    (∀ v : Value, v.isPlain → v.isSound = true →
      v.freeze.isFrozen = true ∧
      (v.freeze.freeze = v.freeze ∧ eqvItem v.freeze.freeze v.freeze = .ok true) ∧
      (UpToAccess v v.freeze ∧ v.refreeze = .ok v.freeze) ∧
      (∀ w, UpToAccess v w → eqvItem v.freeze w.freeze = .ok true) ∧
      -- what is no number counts as one with itself, without being equal to itself
      ((∀ n, v ≠ .float (.nan n)) → eqv v.freeze.freeze v.freeze = .ok true ∧
        ∀ w, UpToAccess v w → eqv v.freeze w.freeze = .ok true)) ∧
    (∀ entries : List (Value × Value), (Value.map .mutable entries).isPlain →
      (Value.map .mutable entries).isSound = true →
      ∀ (s : State) (self : Value), s.object? self = some (.properties (.ofEntries entries)) →
        ∃ dict t copy u q, (call .asDict self []).run.run s = (.ok (.value dict), t) ∧
          (create .properties [dict]).run.run t = (.ok copy, u) ∧
          u.object? copy = some (.properties q) ∧
          q.eqv (.ofEntries entries) = .ok true ∧
          q.names = (Properties.ofEntries entries).names) := by
  constructor
  · intro v hplain hsound
    have hnan : (∀ n, v ≠ .float (.nan n)) → ∀ n, v.freeze ≠ .float (.nan n) := by
      intro h n hfreeze
      cases v with
      | float x => exact h n hfreeze
      | _ => cases hfreeze
    have hself := eqvItem_self v.freeze (isSound_freeze v hsound)
    refine ⟨isFrozen_freeze v hplain hsound, ⟨freeze_freeze v, ?_⟩,
      ⟨upToAccess_freeze v hsound, refreeze_eq v hsound⟩,
      fun w hw => eqvItem_freeze v hsound hw, fun h => ⟨?_, fun w hw => ?_⟩⟩
    · rw [freeze_freeze]
      exact hself
    · rw [freeze_freeze]
      exact eqv_of_eqvItem hself (hnan h)
    · exact eqv_of_eqvItem (eqvItem_freeze v hsound hw) (hnan h)
  · intro entries hplain hsound s self hself
    have hstore : (Properties.ofEntries entries).isPlain :=
      (Properties.isPlain_ofEntries entries).trans hplain
    obtain ⟨dict, t, copy, u, hdict, hcopy, hobject⟩ := create_of_asDict hself hstore
    rw [Properties.ofEntries_entries] at hobject
    exact ⟨dict, t, copy, u, _, hdict, hcopy, hobject, Properties.eqv_self hsound, rfl⟩

/-- A list of a dictionary, bytes and something that is no number, and the same as a tuple, in a
store. -/
theorem freeze_faithful_nested :
    let v : Value := .seq .mutable [
      .map .mutable [(.text "k", .set .mutable [.int 1, .text "a"])],
      .bytes .mutable [1, 2], .float (.nan 1)]
    let w : Value := .seq .frozen [
      .map .frozen [(.text "k", .set .frozen [.text "a", .int 1])],
      .bytes .frozen [1, 2], .float (.nan 1)]
    let p : Properties := .ofEntries [(.text "v", v), (.int 1, w)]
    v.isPlain ∧ v.isSound = true ∧ v.freeze.isFrozen = true ∧ v.refreeze = .ok v.freeze ∧
      eqv v.freeze w.freeze = .ok true ∧
      ∃ dict t copy u q,
        (call .asDict (.ref 0) []).run.run ({ objects := [.properties p] } : State) =
          (.ok (.value dict), t) ∧
        (create .properties [dict]).run.run t = (.ok copy, u) ∧
        u.object? copy = some (.properties q) ∧ q.eqv p = .ok true ∧ q.names = p.names := by
  intro v w p
  have hplain : v.isPlain := by decide +kernel
  have hsound : v.isSound = true := by decide +kernel
  -- The second value differs from the first in access and in the order of the set only.
  have hw : UpToAccess v w :=
    .seq (.cons (.map (.cons (.set (.swap _ _ [])) .nil)) (.cons .bytes (.cons (.same _) .nil)))
  obtain ⟨hvalues, hstores⟩ := freeze_faithful
  obtain ⟨hfrozen, _, ⟨_, hrefreeze⟩, _, hequal⟩ := hvalues v hplain hsound
  exact ⟨hplain, hsound, hfrozen, hrefreeze, (hequal nofun).2 w hw,
    hstores [(.text "v", v), (.int 1, w)] (by decide +kernel) (by decide +kernel) _ (.ref 0) rfl⟩

end Session

end Egress
