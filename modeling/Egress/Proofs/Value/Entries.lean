import Egress.Proofs.Value.Key
import Egress.Proofs.Value.Plain
import Mathlib.Data.List.Forall2
import Mathlib.Data.List.Induction
import Mathlib.Data.List.Perm.Subperm

/-!
# Entries under names

What is found under a name after a value was put under it or another name, and after a name was
erased. Entries of equal maps are found under the same names, and their values count as one; and
stores that find the same under every name are equal.

## Key results

- `Value.entry?_putEntry`, `Value.entry?_eraseEntry`: what is found after a change
- `Value.map_fst_putEntry`, `Value.map_fst_eraseEntry`: the names after a change
- `Value.IsStore`: entries whose names are told apart, which changes keep
- `Value.matches_of_eqv`, `Value.eqv_of_matches`: stores are equal when their entries are the same
  in some order
- `Value.entry?_of_eqv`: what equal maps hold under a name
- `Value.eqv_of_entry?_eq`: stores that find the same are equal
-/

namespace Egress.Value

variable {entries : List (Value × Value)} {k l v : Value}

/-! ### Lookups -/

/-- What is found is the value of the first entry of the name. -/
theorem entry?_cons (e : Value × Value) (rest : List (Value × Value)) (k : Value) :
    entry? (e :: rest) k = if sameKey e.1 k = true then some e.2 else entry? rest k := by
  rw [Value.entry?, List.find?_cons]
  cases sameKey e.1 k <;> rfl

/-- What is found among entries in two parts. -/
theorem entry?_append (before after : List (Value × Value)) (k : Value) :
    entry? (before ++ after) k = (Value.entry? before k).or (Value.entry? after k) := by
  rw [Value.entry?, List.find?_append]
  cases hbefore : before.find? (sameKey ·.1 k) <;> simp [Value.entry?, hbefore]

/-- Nothing is found where no entry has the name. -/
theorem entry?_eq_none : entry? entries k = none ↔ ∀ e ∈ entries, sameKey e.1 k = false := by
  rw [Value.entry?, Option.map_eq_none_iff, List.find?_eq_none]
  simp only [Bool.not_eq_true]

/-- An entry that is found is one of the entries, under a name of the entry. -/
theorem exists_of_entry? (h : entry? entries k = some v) :
    ∃ e ∈ entries, sameKey e.1 k = true ∧ e.2 = v := by
  obtain ⟨e, hfind, rfl⟩ := Option.map_eq_some_iff.1 h
  exact ⟨e, List.mem_of_find?_eq_some hfind, by simpa using List.find?_some hfind, rfl⟩

/-- A name is put in place of what is there exactly when something is found under it. -/
theorem any_sameKey (entries : List (Value × Value)) (k : Value) :
    entries.any (sameKey ·.1 k) = (Value.entry? entries k).isSome := by
  rw [Value.entry?, Option.isSome_map, List.isSome_find?]

/-- A change of the values leaves them where they are found. -/
theorem entry?_map (f : Value → Value) (entries : List (Value × Value)) (k : Value) :
    entry? (entries.map fun e => (e.1, f e.2)) k = (Value.entry? entries k).map f := by
  induction entries with
  | nil => rfl
  | cons e rest ih =>
    rw [List.map_cons, entry?_cons, entry?_cons, ih]
    split <;> rfl

/-! ### Changes -/

/-- Entries under names. -/
def AreNamed (entries : List (Value × Value)) : Prop := ∀ e ∈ entries, e.1.IsName

theorem areNamed_nil : AreNamed [] := fun _ h => (nomatch h)

theorem areNamed_cons {e : Value × Value} {rest : List (Value × Value)} :
    AreNamed (e :: rest) ↔ e.1.IsName ∧ AreNamed rest := List.forall_mem_cons

/-- Keys name entries. -/
theorem areNamed_of_all (h : entries.all (·.1.isKey) = true) : AreNamed entries :=
  fun e he => isName_of_isKey (List.all_eq_true.1 h e he)

/-- Names of one entry find the same. -/
theorem entry?_congr (hn : AreNamed entries) (hk : k.IsName) (hl : l.IsName)
    (h : sameKey k l = true) : entry? entries k = entry? entries l := by
  induction entries with
  | nil => rfl
  | cons e rest ih =>
    obtain ⟨he, hrest⟩ := areNamed_cons.1 hn
    have hsame : sameKey e.1 k = sameKey e.1 l := Bool.eq_iff_iff.2
      ⟨fun hek => sameKey_trans he hk hl hek h,
        fun hel => sameKey_trans he hl hk hel (sameKey_symm hk hl h)⟩
    rw [entry?_cons, entry?_cons, hsame, ih hrest]

/-- What is found after the values under a name were replaced. -/
private theorem entry?_replace (hn : AreNamed entries) (hk : k.IsName) (hl : l.IsName) :
    entry? (entries.map fun e => if sameKey e.1 k then (e.1, v) else e) l =
      if sameKey k l then (Value.entry? entries l).map fun _ => v else entry? entries l := by
  induction entries with
  | nil => simp [Value.entry?]
  | cons e rest ih =>
    obtain ⟨he, hrest⟩ := areNamed_cons.1 hn
    rw [List.map_cons, entry?_cons, entry?_cons, ih hrest]
    -- Whether the first entry is replaced, and whether it is the one that is asked for.
    by_cases hek : sameKey e.1 k = true
    · rw [if_pos hek, sameKey_congr he hk hl hek]
      split <;> rfl
    · rw [if_neg hek]
      by_cases hel : sameKey e.1 l = true
      · have hkl : ¬sameKey k l = true :=
          fun h => hek (sameKey_trans he hl hk hel (sameKey_symm hk hl h))
        rw [if_pos hel, if_neg hkl, if_pos hel]
      · simp only [if_neg hel]

/-- After a value was put under a name, it is found under the names of its entry, and what was found
before is found under the others. -/
theorem entry?_putEntry (hn : AreNamed entries) (hk : k.IsName) (hl : l.IsName) :
    entry? (putEntry entries k v) l =
      if sameKey k l = true then some v else entry? entries l := by
  rw [putEntry, any_sameKey]
  -- The name has an entry, which is replaced, or gets one behind the others.
  split
  · rename_i hfound
    rw [entry?_replace hn hk hl]
    split
    · rename_i hkl
      obtain ⟨w, hw⟩ := Option.isSome_iff_exists.1 hfound
      rw [← entry?_congr hn hk hl hkl, hw]
      rfl
    · rfl
  · rename_i hnone
    rw [Option.not_isSome_iff_eq_none] at hnone
    rw [entry?_append, entry?_cons]
    split
    · rename_i hkl
      rw [← entry?_congr hn hk hl hkl, hnone]
      rfl
    · exact Option.or_none

/-- What was put under a name that is like itself is found there, whatever the other names are. -/
theorem entry?_putEntry_self (entries : List (Value × Value)) (v : Value)
    (hk : sameKey k k = true) : entry? (putEntry entries k v) k = some v := by
  rw [putEntry, any_sameKey]
  -- The induction passes over the entries before the one that is replaced.
  split
  · rename_i hfound
    induction entries with
    | nil => cases hfound
    | cons e rest ih =>
      rw [entry?_cons] at hfound
      rw [List.map_cons, entry?_cons]
      by_cases hek : sameKey e.1 k = true
      · rw [if_pos hek, if_pos hek]
      · rw [if_neg hek] at hfound
        rw [if_neg hek, if_neg hek]
        exact ih hfound
  · rename_i hnone
    rw [Option.not_isSome_iff_eq_none] at hnone
    rw [entry?_append, hnone, Option.none_or, entry?_cons, if_pos hk]

/-- After a name was erased, nothing is found under the names of its entry, and what was found
before is found under the others. -/
theorem entry?_eraseEntry (hn : AreNamed entries) (hk : k.IsName) (hl : l.IsName) :
    entry? (eraseEntry entries k) l = if sameKey k l = true then none else entry? entries l := by
  induction entries with
  | nil => simp [Value.entry?, eraseEntry]
  | cons e rest ih =>
    obtain ⟨he, hrest⟩ := areNamed_cons.1 hn
    have hih := ih hrest
    rw [eraseEntry] at hih ⊢
    -- The first entry is dropped, found, or passed over.
    by_cases hek : sameKey e.1 k = true
    · rw [List.filter_cons_of_neg (by simp [hek]), hih, entry?_cons, sameKey_congr he hk hl hek]
      split <;> rfl
    · rw [List.filter_cons_of_pos (by simp [hek]), entry?_cons, entry?_cons, hih]
      by_cases hel : sameKey e.1 l = true
      · have hkl : ¬sameKey k l = true :=
          fun h => hek (sameKey_trans he hl hk hel (sameKey_symm hk hl h))
        rw [if_pos hel, if_pos hel, if_neg hkl]
      · simp only [if_neg hel]

/-- A name that is new comes last. -/
theorem map_fst_putEntry (entries : List (Value × Value)) (k v : Value) :
    (putEntry entries k v).map (·.1) =
      if (Value.entry? entries k).isSome then entries.map (·.1) else entries.map (·.1) ++ [k] := by
  rw [putEntry, any_sameKey]
  split
  · rw [List.map_map]
    refine List.map_congr_left fun e _ => ?_
    dsimp only [Function.comp]
    split <;> rfl
  · rw [List.map_append, List.map_singleton]

/-- Erasing a name filters the names. -/
theorem map_fst_eraseEntry (entries : List (Value × Value)) (k : Value) :
    (eraseEntry entries k).map (·.1) = (entries.map (·.1)).filter (!sameKey · k) := by
  rw [eraseEntry, List.filter_map]
  rfl

theorem AreNamed.put (hn : AreNamed entries) (hk : k.IsName) : AreNamed (putEntry entries k v) :=
  forall_fst_putEntry hn hk

theorem AreNamed.erase (hn : AreNamed entries) : AreNamed (eraseEntry entries k) :=
  fun e he => hn e (List.mem_filter.1 he).1

theorem AreNamed.map (hn : AreNamed entries) (f : Value → Value) :
    AreNamed (entries.map fun e => (e.1, f e.2)) := by
  intro e he
  obtain ⟨f, hf, rfl⟩ := List.mem_map.1 he
  exact hn f hf

/-! ### Stores -/

/-- Entries under names that are told apart. -/
structure IsStore (entries : List (Value × Value)) : Prop where
  named : AreNamed entries
  -- No two names are of one entry.
  distinct : entries.Pairwise fun e f => sameKey e.1 f.1 = false

theorem isStore_nil : IsStore [] := ⟨areNamed_nil, .nil⟩

/-- A store stays one when a value is put under a name. -/
theorem IsStore.put (h : IsStore entries) (hk : k.IsName) : IsStore (putEntry entries k v) := by
  refine ⟨h.named.put hk, ?_⟩
  have hnames : (putEntry entries k v).map (·.1) |>.Pairwise fun n m => sameKey n m = false := by
    rw [map_fst_putEntry]
    split
    · exact List.pairwise_map.2 h.distinct
    · rename_i hnone
      -- A name that was not found is another than all that are there.
      rw [Option.not_isSome_iff_eq_none, entry?_eq_none] at hnone
      refine List.pairwise_append.2
        ⟨List.pairwise_map.2 h.distinct, List.pairwise_singleton _ _, ?_⟩
      intro n hn m hm
      obtain ⟨e, he, rfl⟩ := List.mem_map.1 hn
      rw [List.mem_singleton.1 hm]
      exact hnone e he
  exact List.pairwise_map.1 hnames

theorem IsStore.erase (h : IsStore entries) : IsStore (eraseEntry entries k) :=
  ⟨h.named.erase, h.distinct.filter _⟩

theorem IsStore.map (h : IsStore entries) (f : Value → Value) :
    IsStore (entries.map fun e => (e.1, f e.2)) :=
  ⟨h.named.map f, List.pairwise_map.2 h.distinct⟩

/-- A store stays one when entries are put into it one after the other. -/
theorem IsStore.foldl_put (h : IsStore entries) {new : List (Value × Value)} (hn : AreNamed new) :
    IsStore (new.foldl (fun m e => putEntry m e.1 e.2) entries) :=
  List.foldlRecOn new _ h fun _ hm e he => hm.put (hn e he)

/-- Entries that are put one after the other make up a store. -/
theorem isStore_putAll (hn : AreNamed entries) : IsStore (putAll entries) :=
  isStore_nil.foldl_put hn

/-- Among entries that were put, the last one under a name is found. -/
theorem entry?_putAll (hn : AreNamed entries) (hk : k.IsName) :
    entry? (putAll entries) k = entry? entries.reverse k := by
  induction entries using List.reverseRecOn with
  | nil => rfl
  | append_singleton rest e ih =>
    have hrest : AreNamed rest := fun f hf => hn f (by simp [hf])
    have he : e.1.IsName := hn e (by simp)
    rw [putAll, List.foldl_append, List.foldl_cons, List.foldl_nil, ← putAll,
      entry?_putEntry (isStore_putAll hrest).named he hk, ih hrest, List.reverse_append,
      List.reverse_singleton, List.singleton_append, entry?_cons]

/-- An entry of a store is found under each name of it. -/
theorem IsStore.entry?_eq (h : IsStore entries) (hk : k.IsName) {e : Value × Value}
    (he : e ∈ entries) (hek : sameKey e.1 k = true) : entry? entries k = some e.2 := by
  induction entries with
  | nil => cases he
  | cons f rest ih =>
    obtain ⟨hf, hrest⟩ := areNamed_cons.1 h.named
    obtain ⟨hfree, hdistinct⟩ := List.pairwise_cons.1 h.distinct
    rw [entry?_cons]
    rcases List.mem_cons.1 he with rfl | he
    · rw [if_pos hek]
    -- No other entry of a store has the name, so the first that is found is this one.
    · have hfk : ¬sameKey f.1 k = true := by
        intro hfk
        have hfe := sameKey_trans hf hk (hrest e he) hfk (sameKey_symm (hrest e he) hk hek)
        rw [hfree e he] at hfe
        cases hfe
      rw [if_neg hfk]
      exact ih ⟨hrest, hdistinct⟩ he

/-! ### Equal maps -/

/-- An element that stands beside others has one of them as its partner. -/
theorem exists_of_mem_forall₂ {R : α → β → Prop} {p : List α} {q : List β}
    (h : List.Forall₂ R p q) {b : β} (hb : b ∈ q) : ∃ a ∈ p, R a b := by
  induction h with
  | nil => cases hb
  | @cons a c rest rest' hac _ ih =>
    rcases List.mem_cons.1 hb with rfl | hb
    · exact ⟨a, List.mem_cons_self, hac⟩
    · obtain ⟨a', ha', hab⟩ := ih hb
      exact ⟨a', List.mem_cons_of_mem a ha', hab⟩

/-- Where every element of a list has a partner in another and no two elements share one, the
elements stand beside as many of the other. -/
theorem exists_partners {R : α → β → Prop} {p : List α} {q : List β}
    (hpartner : ∀ a ∈ p, ∃ b ∈ q, R a b) (hdiffer : p.Pairwise fun a a' => ∀ b, R a b → ¬R a' b) :
    ∃ l, l.Subperm q ∧ List.Forall₂ R p l := by
  induction p with
  | nil => exact ⟨[], List.nil_subperm, .nil⟩
  | cons a rest ih =>
    obtain ⟨hfirst, hdiffer⟩ := List.pairwise_cons.1 hdiffer
    obtain ⟨⟨b, hb, hab⟩, hpartner⟩ := List.forall_mem_cons.1 hpartner
    obtain ⟨l, hl, hrest⟩ := ih hpartner hdiffer
    -- The partner of the first stays free, since no other element has it.
    have hfree : b ∉ l := by
      intro hmem
      obtain ⟨a', ha', hab'⟩ := exists_of_mem_forall₂ hrest hmem
      exact hfirst a' ha' b hab hab'
    exact ⟨b :: l, List.cons_subperm_of_not_mem_of_mem hfree hb hl, .cons hab hrest⟩

/-- The entries of a store whose names have entries elsewhere stand beside these. -/
theorem IsStore.exists_partners {p q : List (Value × Value)} (hp : IsStore p) (hq : AreNamed q)
    {R : Value × Value → Value × Value → Prop}
    (h : ∀ e ∈ p, ∃ f ∈ q, sameKey e.1 f.1 = true ∧ R e f) :
    ∃ l, l.Subperm q ∧ List.Forall₂ (fun e f => sameKey e.1 f.1 = true ∧ R e f) p l := by
  -- Entries of one store that had the same partner would have the same name.
  let R' (e f : Value × Value) : Prop := e ∈ p ∧ f ∈ q ∧ sameKey e.1 f.1 = true ∧ R e f
  have hpartner : ∀ e ∈ p, ∃ f ∈ q, R' e f := by
    intro e he
    obtain ⟨f, hf, hef⟩ := h e he
    exact ⟨f, hf, he, hf, hef⟩
  have hdiffer : p.Pairwise fun e e' => ∀ f, R' e f → ¬R' e' f := by
    refine hp.distinct.imp fun hfree f ⟨he, hf, hef, _⟩ ⟨he', _, hef', _⟩ => ?_
    have := sameKey_trans (hp.named _ he) (hq f hf) (hp.named _ he') hef
      (sameKey_symm (hp.named _ he') (hq f hf) hef')
    rw [hfree] at this
    cases this
  obtain ⟨l, hl, hpartners⟩ := Value.exists_partners hpartner hdiffer
  exact ⟨l, hl, hpartners.imp fun e f h => h.2.2⟩

/-- Where some entry passes a test, there is one that does. -/
theorem exists_of_anyEntry {test : Value × Value → Except UrlError Bool}
    (h : anyEntry test entries = .ok true) : ∃ e ∈ entries, test e = .ok true := by
  induction entries with
  | nil => cases h
  | cons e rest ih =>
    -- The first entry passes, or one of the others does.
    obtain ⟨found, htest, h⟩ := bind_eq_ok.1 h
    split at h
    · rename_i hfound
      exact ⟨e, List.mem_cons_self, hfound ▸ htest⟩
    · obtain ⟨f, hf, htest⟩ := ih h
      exact ⟨f, List.mem_cons_of_mem e hf, htest⟩

/-- Each entry that is found in a map has a partner there: an entry of the name with a value that
counts as one with its own. -/
theorem partner_of_eachEntryIn {p q : List (Value × Value)} (h : eachEntryIn p q = .ok true)
    {e : Value × Value} (he : e ∈ p) :
    ∃ f ∈ q, sameKey e.1 f.1 = true ∧ eqvItem e.2 f.2 = .ok true := by
  induction p with
  | nil => cases he
  | cons d rest ih =>
    rw [eachEntryIn, andThen_eq_true] at h
    obtain ⟨hany, hrest⟩ := h
    -- The first entry has its partner by the test, the others by induction.
    rcases List.mem_cons.1 he with rfl | he
    · obtain ⟨f, hf, htest⟩ := exists_of_anyEntry hany
      obtain ⟨hname, hvalue⟩ := andThen_eq_true.1 htest
      refine ⟨f, hf, sameKey_eq_true.2 ?_, hvalue⟩
      split at hname
      · cases hname
      · rename_i hdigest
        exact ⟨by simpa using hdigest, hname⟩
    · exact ih hrest he

/-- Entries are those of another map in some order: each stands beside an entry of its name with a
value that counts as one with its own. -/
def Matches (p q : List (Value × Value)) : Prop :=
  ∃ l, l.Perm q ∧
    List.Forall₂ (fun e f => sameKey e.1 f.1 = true ∧ eqvItem e.2 f.2 = .ok true) p l

/-- The entries of equal maps are the same in some order. -/
theorem matches_of_eqv {p q : List (Value × Value)} {access access' : Access} (hp : IsStore p)
    (hq : IsStore q) (h : eqv (.map access p) (.map access' q) = .ok true) : Matches p q := by
  rw [eqv] at h
  split at h
  · rename_i hlength
    obtain ⟨l, hl, hpartners⟩ := hp.exists_partners hq.named fun e he =>
      partner_of_eachEntryIn h he
    have hle : q.length ≤ l.length := Nat.le_of_eq (hlength.symm.trans hpartners.length_eq)
    exact ⟨l, hl.perm_of_length_le hle, hpartners⟩
  · cases h

/-- Equal maps hold values that count as one under each name, or nothing. -/
theorem entry?_of_eqv {p q : List (Value × Value)} {access access' : Access} (hp : IsStore p)
    (hq : IsStore q) (h : eqv (.map access p) (.map access' q) = .ok true) (hk : k.IsName) :
    (Value.entry? p k = none ∧ entry? q k = none) ∨
      ∃ v w, entry? p k = some v ∧ entry? q k = some w ∧ eqvItem v w = .ok true := by
  -- The entries stand beside each other, so what is found in one is found in the other.
  obtain ⟨l, hl, hpartners⟩ := matches_of_eqv hp hq h
  cases hfound : entry? q k with
  | some w =>
    obtain ⟨f, hf, hfk, rfl⟩ := exists_of_entry? hfound
    obtain ⟨e, he, hef, hvalue⟩ := exists_of_mem_forall₂ hpartners (hl.mem_iff.2 hf)
    have hek := sameKey_trans (hp.named e he) (hq.named f hf) hk hef hfk
    exact .inr ⟨e.2, f.2, hp.entry?_eq hk he hek, rfl, hvalue⟩
  | none =>
    refine .inl ⟨?_, rfl⟩
    rw [entry?_eq_none] at hfound ⊢
    intro e he
    rw [Bool.eq_false_iff]
    intro hek
    obtain ⟨f, hf, hef, _⟩ := exists_of_mem_forall₂ hpartners.flip he
    have hfq := hl.mem_iff.1 hf
    have hfk := sameKey_trans (hq.named f hfq) (hp.named e he) hk
      (sameKey_symm (hp.named e he) (hq.named f hfq) hef) hek
    rw [hfound f hfq] at hfk
    cases hfk

/-- An entry that passes is found behind those that do not. -/
theorem anyEntry_of_split {test : Value × Value → Except UrlError Bool} {e : Value × Value}
    {before after : List (Value × Value)} (hbefore : ∀ f ∈ before, test f = .ok false)
    (he : test e = .ok true) : anyEntry test (before ++ e :: after) = .ok true := by
  induction before with
  | nil =>
    rw [List.nil_append, anyEntry, he]
    rfl
  | cons f rest ih =>
    obtain ⟨hf, hrest⟩ := List.forall_mem_cons.1 hbefore
    rw [List.cons_append, anyEntry, hf]
    exact ih hrest

/-- An entry is found in a map: the first entry that is not told from it by the name has a value
that counts as one with its own. -/
def IsMet (entries : List (Value × Value)) (e : Value × Value) : Prop :=
  ∃ before f after, entries = before ++ f :: after ∧
    (∀ g ∈ before, eqvKey e.1 g.1 = .ok false) ∧ eqvKey e.1 f.1 = .ok true ∧
    eqvItem e.2 f.2 = .ok true

/-- Entries that are found in a map are all of them in it. -/
theorem eachEntryIn_of_isMet {p q : List (Value × Value)} (h : ∀ e ∈ p, IsMet q e) :
    eachEntryIn p q = .ok true := by
  induction p with
  | nil => rw [eachEntryIn]
  | cons e rest ih =>
    obtain ⟨he, hrest⟩ := List.forall_mem_cons.1 h
    obtain ⟨before, f, after, rfl, hbefore, hname, hvalue⟩ := he
    rw [eachEntryIn, andThen_eq_true]
    refine ⟨anyEntry_of_split (fun g hg => ?_) (andThen_eq_true.2 ⟨hname, hvalue⟩), ih hrest⟩
    -- An entry of another name is passed over, whatever its value is.
    have hother := hbefore g hg
    rw [eqvKey] at hother
    exact congrArg (fun r => andThen r _) hother

/-- Every name of the entries can be looked up. -/
def AreFound (entries : List (Value × Value)) : Prop := ∀ e ∈ entries, sameKey e.1 e.1 = true

/-- Entries whose names are like themselves are found. -/
theorem areFound_of_all (h : entries.all (fun e => sameKey e.1 e.1) = true) : AreFound entries :=
  List.all_eq_true.1 h

theorem AreFound.put (h : AreFound entries) (hk : sameKey k k = true) :
    AreFound (putEntry entries k v) :=
  forall_fst_putEntry (P := fun n => sameKey n n = true) h hk

/-- Entries stay found when entries that are found are put into them. -/
theorem AreFound.foldl_put (h : AreFound entries) {new : List (Value × Value)}
    (hn : AreFound new) : AreFound (new.foldl (fun m e => putEntry m e.1 e.2) entries) :=
  List.foldlRecOn new _ h fun _ hm e he => hm.put (hn e he)

/-- Every name of entries that are put one after the other can be looked up, if it could before. -/
theorem areFound_putAll (h : AreFound entries) : AreFound (putAll entries) := by
  have hnil : AreFound [] := fun _ he => nomatch he
  exact hnil.foldl_put h

/-- An entry is found in a store that holds its value under its name. -/
theorem IsStore.isMet {q : List (Value × Value)} (hq : IsStore q) {e : Value × Value}
    (hname : e.1.IsName) (hfound : Value.entry? q e.1 = some w)
    (hvalue : eqvItem e.2 w = .ok true) : IsMet q e := by
  obtain ⟨f, hfind, rfl⟩ := Option.map_eq_some_iff.1 hfound
  obtain ⟨hfe, before, after, rfl, hbefore⟩ := List.find?_eq_some_iff_append.1 hfind
  have hnamed : ∀ g ∈ before ++ f :: after, g.1.IsName := hq.named
  refine ⟨before, f, after, rfl, fun g hg => ?_, ?_, hvalue⟩
  -- Names are the same in either order, so no entry before it has the name.
  · have hgn := hnamed g (List.mem_append_left _ hg)
    have hge : sameKey g.1 e.1 = false := by simpa using hbefore g hg
    have heg : sameKey e.1 g.1 = false := by
      rw [Bool.eq_false_iff]
      intro heg
      rw [sameKey_symm hname hgn heg] at hge
      cases hge
    rw [eqvKey_of_isName hname hgn, heg]
  · have hfn := hnamed f (List.mem_append_right _ List.mem_cons_self)
    exact eqvKey_eq_true.2 (sameKey_symm hfn hname hfe)

/-- Stores whose entries are the same in some order are equal. -/
theorem eqv_of_matches {p q : List (Value × Value)} {access access' : Access} (hp : IsStore p)
    (hq : IsStore q) (h : Matches p q) : eqv (.map access p) (.map access' q) = .ok true := by
  obtain ⟨l, hl, hpartners⟩ := h
  rw [eqv, if_pos (hpartners.length_eq.trans hl.length_eq)]
  refine eachEntryIn_of_isMet fun e he => ?_
  obtain ⟨f, hf, hef, hvalue⟩ := exists_of_mem_forall₂ hpartners.flip he
  have hfq := hl.mem_iff.1 hf
  have hname := hp.named e he
  exact hq.isMet hname (hq.entry?_eq hname hfq (sameKey_symm hname (hq.named f hfq) hef)) hvalue

/-- The entries of a store stand beside those of another that finds the same under its names. -/
private theorem IsStore.partners_of_entry?_eq {p q : List (Value × Value)} (hp : IsStore p)
    (hq : IsStore q) (hpf : AreFound p)
    (h : ∀ k, k.IsName → Value.entry? p k = Value.entry? q k) :
    ∃ l, l.Subperm q ∧ List.Forall₂ (fun e f => sameKey e.1 f.1 = true ∧ e.2 = f.2) p l := by
  refine hp.exists_partners hq.named fun e he => ?_
  have hname := hp.named e he
  have hfound := (h e.1 hname).symm.trans (hp.entry?_eq hname he (hpf e he))
  obtain ⟨f, hf, hfe, hvalue⟩ := exists_of_entry? hfound
  exact ⟨f, hf, sameKey_symm (hq.named f hf) hname hfe, hvalue.symm⟩

/-- Stores that find the same under every name are equal, if each value counts as one with
itself. -/
theorem eqv_of_entry?_eq {p q : List (Value × Value)} {access access' : Access} (hp : IsStore p)
    (hq : IsStore q) (hpf : AreFound p) (hqf : AreFound q)
    (h : ∀ k, k.IsName → Value.entry? p k = Value.entry? q k)
    (hself : ∀ e ∈ p, eqvItem e.2 e.2 = .ok true) :
    eqv (.map access p) (.map access' q) = .ok true := by
  -- Each store stands beside a part of the other, so neither is longer and the part is all of it.
  obtain ⟨l, hl, hpartners⟩ := hp.partners_of_entry?_eq hq hpf h
  obtain ⟨l', hl', hpartners'⟩ := hq.partners_of_entry?_eq hp hqf fun k hk => (h k hk).symm
  have hle : q.length ≤ l.length := by
    rw [← hpartners.length_eq, hpartners'.length_eq]
    exact hl'.length_le
  refine eqv_of_matches hp hq ⟨l, hl.perm_of_length_le hle, ?_⟩
  have hmem : List.Forall₂ (fun e f => e ∈ p ∧ sameKey e.1 f.1 = true ∧ e.2 = f.2) p l :=
    (List.forall₂_and_left p l).2 ⟨fun _ he => he, hpartners⟩
  exact hmem.imp fun e f ⟨he, hname, hvalue⟩ => ⟨hname, hvalue ▸ hself e he⟩

end Egress.Value
