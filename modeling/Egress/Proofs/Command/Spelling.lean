import Egress.Command.Arguments
import Egress.Proofs.Outcome
import Mathlib.Data.List.TakeWhile

/-!
# How options are written

An option can be written in several ways, and short options can be joined. The arguments that the
command accepts are exactly those that write down some settings, one option after the other, and
they are read as these settings.

## Key results

- `Spells`, `Writes`: the ways to write down an option, and settings
- `readArgument_of_spells`, `spells_of_readArgument`: what a single argument is read as
- `Invocation.ofArguments_eq_settings`: arguments stand for the settings that they write down
- `exists_writes`: all settings can be written down
-/

namespace Egress.Command

open ValueOption (ofLong? ofShort?)

/-- Joined short options: first the option without a value, so many times. -/
def joinedShort (flags : Nat) (rest : List Char) : String :=
  String.ofList ('-' :: (List.replicate flags verboseShort ++ rest))

/-- The ways to write down options in a single argument, the last of them perhaps without its
value. -/
inductive Spells : String → Reading → Prop
  | ending : Spells "--" .ending
  | help : Spells helpLong .help
  | long (o : ValueOption) : Spells o.long (.awaiting [] o o.long)
  | longValue (o : ValueOption) (x : String) : Spells (o.long ++ "=" ++ x) (.settings [.value o x])
  | verbose : Spells verboseLong (.settings [.verbose])
  | flags (n : Nat) :
    Spells (joinedShort (n + 1) []) (.settings (List.replicate (n + 1) .verbose))
  | short (n : Nat) {c : Char} {o : ValueOption} (h : ofShort? c = some o) :
    Spells (joinedShort n [c]) (.awaiting (List.replicate n .verbose) o (String.ofList ['-', c]))
  | shortValue (n : Nat) {c : Char} {o : ValueOption} {x : String} (h : ofShort? c = some o)
    (hx : x ≠ "") :
    Spells (joinedShort n (c :: x.toList))
      (.settings (List.replicate n .verbose ++ [.value o x]))

/-- The ways to write down settings in arguments. -/
inductive Writes : List Setting → List String → Prop
  | nil : Writes [] []
  -- Arguments may be ended explicitly.
  | ending {s : String} (h : Spells s .ending) : Writes [] [s]
  | settings {s : String} {list settings : List Setting} {arguments : List String}
    (h : Spells s (.settings list)) (rest : Writes settings arguments) :
    Writes (list ++ settings) (s :: arguments)
  | awaiting {s name : String} {list settings : List Setting} {o : ValueOption}
    {arguments : List String} (h : Spells s (.awaiting list o name)) (x : String)
    (rest : Writes settings arguments) :
    Writes (list ++ .value o x :: settings) (s :: x :: arguments)

/-! ### Short options -/

/-- The option without a value is no other one. -/
theorem ne_verboseShort {c : Char} {o : ValueOption} (h : ofShort? c = some o) :
    c ≠ verboseShort := by
  rintro rfl
  cases h

/-- The option without a value is read as often as it is written. -/
theorem readShort_replicate (n : Nat) (done : List Setting) (rest : List Char) :
    readShort done (List.replicate n verboseShort ++ rest) =
      readShort (done ++ List.replicate n .verbose) rest := by
  induction n generalizing done with
  | zero => simp
  | succ n ih =>
    rw [List.replicate_succ, List.cons_append, readShort, if_pos rfl, ih, List.append_assoc,
      List.replicate_succ, List.singleton_append]

/-- An option with a value is the last of joined ones. -/
theorem readShort_cons {c : Char} {o : ValueOption} (h : ofShort? c = some o)
    (done : List Setting) (rest : List Char) : readShort done (c :: rest) =
      if rest = [] then .ok (.awaiting done o (String.ofList ['-', c]))
      else .ok (.settings (done ++ [.value o (String.ofList rest)])) := by
  rw [readShort, if_neg (ne_verboseShort h), h]

/-- What is read of short options, so many of which are read already, spells them all. -/
theorem spells_of_readShort {flags : Nat} {rest : List Char} {r : Reading}
    (h : readShort (List.replicate flags .verbose) rest = .ok r) (hne : flags = 0 → rest ≠ []) :
    Spells (joinedShort flags rest) r := by
  -- By induction on the letters, with one more flag read in each step.
  induction rest generalizing flags with
  | nil =>
    cases h
    cases flags with
    | zero => exact absurd rfl (hne rfl)
    | succ n => exact .flags n
  | cons c rest ih =>
    by_cases hc : c = verboseShort
    · subst hc
      rw [readShort, if_pos rfl, ← List.replicate_succ'] at h
      have hrest := ih h (fun hzero => absurd hzero (Nat.succ_ne_zero flags))
      rw [joinedShort, List.replicate_succ', List.append_assoc] at hrest
      exact hrest
    -- A letter that is no flag has to belong to an option, whose value is the rest of the argument
    -- or the next one.
    · cases ho : ofShort? c with
      | none =>
        rw [readShort, if_neg hc, ho] at h
        cases h
      | some o =>
        rw [readShort_cons ho] at h
        split at h
        · rename_i hnil
          subst hnil
          cases h
          exact .short flags ho
        · rename_i hcons
          cases h
          have hx : String.ofList rest ≠ "" := by
            intro heq
            exact hcons (by simpa using congrArg String.toList heq)
          have hspells := Spells.shortValue flags ho hx
          rwa [String.toList_ofList] at hspells

/-- What is read as short options spells them. -/
theorem spells_of_toList {s : String} {c : Char} {rest : List Char} {r : Reading}
    (hs : s.toList = '-' :: c :: rest) (h : readShort [] (c :: rest) = .ok r) : Spells s r := by
  have hjoined : joinedShort 0 (c :: rest) = s := by
    rw [← String.toList_inj, hs]
    exact String.toList_ofList
  rw [← hjoined]
  exact spells_of_readShort h fun _ => List.cons_ne_nil c rest

/-! ### Names and values -/

/-- A long form begins with two dashes, is longer, and has no equals sign. -/
theorem toList_long (o : ValueOption) :
    (∃ c rest, o.long.toList = '-' :: '-' :: c :: rest) ∧ '=' ∉ o.long.toList := by
  cases o <;> exact ⟨⟨_, _, rfl⟩, by decide⟩

/-- An option that is found by its long name has that name. -/
theorem long_of_ofLong? {s : String} {o : ValueOption} (h : ofLong? s = some o) : o.long = s := by
  simpa using List.find?_some h

/-- A text that does not begin with two dashes is no long form. -/
theorem ofLong?_eq_none {s : String} (h : ∀ rest, s.toList ≠ '-' :: '-' :: rest) :
    ofLong? s = none := by
  cases hs : ofLong? s with
  | none => rfl
  | some o =>
    obtain ⟨⟨c, rest, hlong⟩, _⟩ := toList_long o
    rw [long_of_ofLong? hs] at hlong
    exact absurd hlong (h _)

/-- A text that does not begin with two dashes is no option without a value. -/
theorem ofFlag?_eq_none {s : String} (h : ∀ rest, s.toList ≠ '-' :: '-' :: rest) :
    ofFlag? s = none := by
  have hverbose : s ≠ verboseLong := fun heq => h "verbose".toList (by rw [heq]; rfl)
  have hhelp : s ≠ helpLong := fun heq => h "help".toList (by rw [heq]; rfl)
  rw [ofFlag?, if_neg hverbose, if_neg hhelp]

/-- An option without a value is spelled by its name. -/
theorem spells_of_ofFlag? {s : String} {r : Reading} (h : ofFlag? s = some r) : Spells s r := by
  rw [ofFlag?] at h
  split at h
  · rename_i hverbose
    cases h
    exact hverbose ▸ .verbose
  · split at h
    · rename_i hhelp
      cases h
      exact hhelp ▸ .help
    · cases h

/-- The name before an equals sign. -/
theorem takeWhile_of_cut {name value s : List Char} (h : Text.cut '=' s = some (name, value)) :
    s.takeWhile (· ≠ '=') = name := by
  obtain ⟨rfl, hno⟩ := Text.eq_of_cut_eq_some h
  have hname : ∀ c ∈ name, decide (c ≠ '=') = true := by
    intro c hc
    simpa using fun heq : c = '=' => hno (heq ▸ hc)
  rw [List.takeWhile_append_of_pos hname]
  simp

/-- The name without an equals sign is all. -/
theorem takeWhile_of_cut_eq_none {s : List Char} (h : Text.cut '=' s = none) :
    s.takeWhile (· ≠ '=') = s := by
  rw [List.takeWhile_eq_self_iff]
  intro c hc
  simpa using fun heq : c = '=' => Text.cut_eq_none_iff.1 h (heq ▸ hc)

/-- The name of a short option is no long form. -/
theorem takeWhile_ne_dashes {c : Char} (hc : c ≠ '-') (rest tail : List Char) :
    (String.ofList (('-' :: c :: rest).takeWhile (· ≠ '='))).toList ≠ '-' :: '-' :: tail := by
  intro h
  by_cases heq : c = '='
  · subst heq
    simp at h
  · simp [heq] at h
    exact hc h.1

/-! ### Single arguments -/

/-- An argument with a single dash is read as short options. -/
theorem readArgument_short {c : Char} (hc : c ≠ '-') (rest : List Char) :
    readArgument (String.ofList ('-' :: c :: rest)) = readShort [] (c :: rest) := by
  have hname := takeWhile_ne_dashes hc rest
  have hflag : ofFlag? (String.ofList (('-' :: c :: rest).takeWhile (· ≠ '='))) = none :=
    ofFlag?_eq_none hname
  simp only [readArgument, nameAndValue, String.toList_ofList, ofLong?_eq_none hname, hflag]
  -- The argument begins with one dash and a letter, so the other two ways to read it are out.
  split
  · rename_i heq
    cases heq
    exact absurd rfl hc
  · rename_i heq
    cases heq
    rw [if_neg hc]
  · rename_i h
    exact absurd rfl (h c rest)

/-- A long form is read with its value. -/
theorem readArgument_longValue (o : ValueOption) (x : String) :
    readArgument (o.long ++ "=" ++ x) = .ok (.settings [.value o x]) := by
  obtain ⟨⟨c, rest, hlong⟩, hno⟩ := toList_long o
  have hs : (o.long ++ "=" ++ x).toList = o.long.toList ++ '=' :: x.toList := by
    simp
  have hcut := Text.cut_append_cons x.toList hno
  simp only [readArgument, nameAndValue, hs, takeWhile_of_cut hcut, hcut, String.ofList_toList,
    ValueOption.ofLong?_long, Option.map_some]
  rw [hlong]
  rfl

/-- A long form alone is read as an option whose value follows. -/
theorem readArgument_long (o : ValueOption) :
    readArgument o.long = .ok (.awaiting [] o o.long) := by
  cases o <;> rfl

/-- Joined short options are read after the option without a value. -/
theorem readArgument_joinedShort {flags : Nat} {rest : List Char}
    (h : flags = 0 → ∃ c tail, rest = c :: tail ∧ c ≠ '-') :
    readArgument (joinedShort flags rest) = readShort (List.replicate flags .verbose) rest := by
  have hread := readShort_replicate flags [] rest
  rw [List.nil_append] at hread
  rw [← hread, joinedShort]
  cases flags with
  | zero =>
    obtain ⟨c, tail, rfl, hc⟩ := h rfl
    exact readArgument_short hc tail
  | succ n => exact readArgument_short (by decide) _

/-- An argument is read as the options that it spells. -/
theorem readArgument_of_spells {s : String} {r : Reading} (h : Spells s r) :
    readArgument s = .ok r := by
  -- No option is abbreviated by a dash.
  have hdash : ∀ {c : Char} {o : ValueOption}, ofShort? c = some o → c ≠ '-' := by
    rintro c o ho rfl
    cases ho
  cases h with
  | ending => rfl
  | help => rfl
  | long o => exact readArgument_long o
  | longValue o x => exact readArgument_longValue o x
  | verbose => rfl
  -- Joined letters are read one after the other, the flags first.
  | flags n =>
    rw [readArgument_joinedShort fun hzero => absurd hzero (Nat.succ_ne_zero n)]
    rfl
  | short n ho =>
    rw [readArgument_joinedShort fun _ => ⟨_, _, rfl, hdash ho⟩, readShort_cons ho, if_pos rfl]
  | shortValue n ho hx =>
    rw [readArgument_joinedShort fun _ => ⟨_, _, rfl, hdash ho⟩, readShort_cons ho, if_neg ?_,
      String.ofList_toList]
    simpa using hx

/-- An argument that is read as options spells them. -/
theorem spells_of_readArgument {s : String} {r : Reading} (h : readArgument s = .ok r) :
    r = .plain ∨ Spells s r := by
  rw [readArgument] at h
  dsimp only at h
  split at h
  · rename_i hs
    cases h
    rw [← String.toList_inj.1 (show "--".toList = s.toList from hs.symm)]
    exact .inr .ending
  · rename_i c rest _ hs
    refine .inr ?_
    -- With and without a value behind an equals sign; a flag takes none.
    cases hcut : Text.cut '=' s.toList with
    | none =>
      rw [nameAndValue, hcut, takeWhile_of_cut_eq_none hcut, String.ofList_toList] at h
      cases ho : ofLong? s with
      | some o =>
        rw [ho] at h
        cases h
        rw [← long_of_ofLong? ho]
        exact .long o
      | none =>
        rw [ho] at h
        cases hflag : ofFlag? s with
        | some reading =>
          rw [hflag] at h
          cases h
          exact spells_of_ofFlag? hflag
        | none =>
          rw [hflag] at h
          exact spells_of_toList hs (guard_eq_ok.1 h).2
    | some parts =>
      rw [nameAndValue, hcut, takeWhile_of_cut hcut] at h
      cases ho : ofLong? (String.ofList parts.1) with
      | some o =>
        rw [ho] at h
        cases h
        have hparts : s = o.long ++ "=" ++ String.ofList parts.2 := by
          rw [long_of_ofLong? ho, ← String.toList_inj, (Text.eq_of_cut_eq_some hcut).1]
          simp
        rw [hparts]
        exact .longValue o _
      | none =>
        rw [ho] at h
        cases hflag : ofFlag? (String.ofList parts.1) with
        | some reading =>
          rw [hflag] at h
          cases h
        | none =>
          rw [hflag] at h
          exact spells_of_toList hs (guard_eq_ok.1 h).2
  · cases h
    exact .inl rfl

/-! ### Arguments -/

/-- Arguments are read as the settings that they write down, and nothing else. -/
theorem readArguments_of_writes {settings : List Setting} {arguments : List String}
    (h : Writes settings arguments) : readArguments arguments = .ok ⟨settings, [], false⟩ := by
  induction h with
  | nil => rfl
  | ending h => rw [readArguments, readArgument_of_spells h]
  | settings h _ ih =>
    rw [readArguments, readArgument_of_spells h, ih]
    rfl
  | awaiting h x _ ih =>
    rw [readArguments, readArgument_of_spells h]
    dsimp only
    rw [ih]
    rfl

/-- Arguments that all belong to options, none of which asks for help, write down the settings that
they are read as. -/
theorem writes_of_readArguments {settings : List Setting} {arguments : List String}
    (h : readArguments arguments = .ok ⟨settings, [], false⟩) : Writes settings arguments := by
  -- An argument that is not left over spells what it is read as.
  have hspells : ∀ {s : String} {r : Reading}, readArgument s = .ok r → r ≠ .plain →
      Spells s r := by
    intro s r hread hne
    exact (spells_of_readArgument hread).resolve_left hne
  -- Along the cases of the reader: what it leaves over or fails on contradicts the outcome.
  induction arguments using readArguments.induct generalizing settings with
  | case1 =>
    cases h
    exact .nil
  | case2 s rest e hread =>
    rw [readArguments, hread] at h
    cases h
  | case3 s rest hread _ =>
    rw [readArguments, hread] at h
    obtain ⟨⟨_, _, _⟩, _, hg⟩ := map_eq_ok.1 h
    cases hg
  | case4 s rest hread =>
    rw [readArguments, hread] at h
    cases h
    exact .ending (hspells hread nofun)
  | case5 s rest hread _ =>
    rw [readArguments, hread] at h
    obtain ⟨⟨_, _, _⟩, _, hg⟩ := map_eq_ok.1 h
    cases hg
  | case6 s rest list hread ih =>
    rw [readArguments, hread] at h
    obtain ⟨⟨settings, _, _⟩, hrest, hg⟩ := map_eq_ok.1 h
    cases hg
    exact .settings (hspells hread nofun) (ih hrest)
  | case7 s list o name hread =>
    rw [readArguments, hread] at h
    cases h
  | case8 s list o name hread x rest ih =>
    rw [readArguments, hread] at h
    obtain ⟨⟨settings, _, _⟩, hrest, hg⟩ := map_eq_ok.1 h
    cases hg
    exact .awaiting (hspells hread nofun) x (ih hrest)

/-- All settings can be written down. -/
theorem exists_writes (settings : List Setting) : ∃ arguments, Writes settings arguments := by
  induction settings with
  | nil => exact ⟨[], .nil⟩
  | cons setting rest ih =>
    obtain ⟨arguments, hrest⟩ := ih
    cases setting with
    | verbose => exact ⟨verboseLong :: arguments, .settings .verbose hrest⟩
    | value o x => exact ⟨o.long :: x :: arguments, .awaiting (.long o) x hrest⟩

/-- Arguments stand for the settings that they write down. -/
theorem Invocation.ofArguments_eq_settings {settings : List Setting} {arguments : List String} :
    ofArguments arguments = .ok (.settings settings) ↔ Writes settings arguments := by
  -- What is read was written, and what was written is read.
  constructor
  · intro h
    rw [ofArguments] at h
    split at h
    · cases h
    · cases h
    · rename_i hread
      cases h
      exact writes_of_readArguments hread
    · cases h
  · intro h
    rw [ofArguments, readArguments_of_writes h]

end Egress.Command
