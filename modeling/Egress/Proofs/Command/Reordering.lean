import Egress.Proofs.Command.Show
import Egress.Proofs.Command.Spelling
import Mathlib.Data.List.Induction

/-!
# The order of options

What the command does depends on the last value of each option, and on all values of the options
that add up, but not on how options of different kinds are mixed. A destination that is reported is
told by these values alone: each property has its last value, where the address and the TLS version
count as given after the written properties, and the headers with fixed names come after the
written ones.

## Key results

- `valuesOf`, `lastOf`, `ofSettings_eq`: what is asked for, by the values of each option
- `IsResult`, `IsResult.address`: the destination that settings describe, and its address
- `exists_made_iff`, `reported_iff`: that destination is made, and the report of it is printed
- `run_of_callsFor`: command lines that differ in the order of options or in the records asked for,
  and the report that is printed
-/

namespace Egress.Command

open ProxyConfiguration (derive)

variable {settings others : List Setting} {arguments arguments' : List String}
  {helpLines : Topic → List (List Char)}

/-! ### The values of an option -/

/-- The value that a setting gives to an option. -/
def Setting.valueOf? (o : ValueOption) : Setting → Option String
  | .value p text => if p = o then some text else none
  | .verbose => none

/-- The values of an option, in order. -/
def valuesOf (o : ValueOption) (settings : List Setting) : List String :=
  settings.filterMap (·.valueOf? o)

/-- The last value of an option, which is empty if there is none. -/
def lastOf (o : ValueOption) (settings : List Setting) : String :=
  (valuesOf o settings).getLast?.getD ""

/-- The option for a header with a fixed name. -/
def optionOf : FixedHeader → ValueOption
  | .destinationName => .destinationName
  | .fragmentName => .fragmentName
  | .tenantSubdomain => .tenantSubdomain
  | .tenantId => .tenantId
  | .fragmentOptional => .fragmentOptional

/-- What settings ask for, by the values of each option. -/
def asked (settings : List Setting) : Request where
  uri := lastOf .uri settings
  instanceName := lastOf .instanceName settings
  tlsVersion := lastOf .tlsVersion settings
  fixed := fun h => lastOf (optionOf h) settings
  headers := valuesOf .header settings
  properties := valuesOf .property settings
  verbose := settings.contains .verbose

/-- One more setting gives its value to its option. -/
theorem valuesOf_concat (o : ValueOption) (settings : List Setting) (s : Setting) :
    valuesOf o (settings ++ [s]) = valuesOf o settings ++ (s.valueOf? o).toList := by
  rw [valuesOf, List.filterMap_append, valuesOf]
  cases h : s.valueOf? o <;> simp [h]

/-- The last value of an option is that of the last setting, if that sets it. -/
theorem lastOf_concat (o : ValueOption) (settings : List Setting) (s : Setting) :
    lastOf o (settings ++ [s]) = (s.valueOf? o).getD (lastOf o settings) := by
  rw [lastOf, valuesOf_concat, lastOf]
  cases s.valueOf? o <;> simp

/-- A setting replaces the text of its own header only. -/
theorem fixed_apply (r : Request) (s : Setting) :
    (r.apply s).fixed = fun h => (s.valueOf? (optionOf h)).getD (r.fixed h) := by
  funext h
  cases s with
  | verbose => rfl
  | value o text => cases o <;> cases h <;> rfl

/-- A setting replaces the value of its option, or adds to its values. -/
theorem apply_eq (r : Request) (s : Setting) : r.apply s =
    { uri := (s.valueOf? .uri).getD r.uri
      instanceName := (s.valueOf? .instanceName).getD r.instanceName
      tlsVersion := (s.valueOf? .tlsVersion).getD r.tlsVersion
      fixed := fun h => (s.valueOf? (optionOf h)).getD (r.fixed h)
      headers := r.headers ++ (s.valueOf? .header).toList
      properties := r.properties ++ (s.valueOf? .property).toList
      verbose := r.verbose || decide (.verbose = s) } := by
  rw [← fixed_apply]
  cases s with
  | verbose => simp [Request.apply, Setting.valueOf?]
  | value o text => cases o <;> simp [Request.apply, Request.setFixed, Setting.valueOf?]

/-- What settings ask for is told by the values of each option. -/
theorem ofSettings_eq (settings : List Setting) : Request.ofSettings settings = asked settings := by
  induction settings using List.reverseRecOn with
  | nil => rfl
  | append_singleton rest s ih =>
    rw [Request.ofSettings, List.foldl_append, ← Request.ofSettings, ih, List.foldl_cons,
      List.foldl_nil, apply_eq]
    simp [asked, valuesOf_concat, lastOf_concat]

/-! ### The order and the records -/

/-- The same settings in another order, in which the values of each option keep theirs. -/
structure IsReordering (settings others : List Setting) : Prop where
  perm : settings.Perm others
  values : ∀ o, valuesOf o settings = valuesOf o others

/-- The same settings in order, but for the records that are asked for. -/
def SameButVerbose (settings others : List Setting) : Prop :=
  settings.filter (· ≠ .verbose) = others.filter (· ≠ .verbose)

/-- The order of the options does not matter. -/
theorem IsReordering.asked_eq (h : IsReordering settings others) :
    asked settings = asked others := by
  have hverbose : settings.contains .verbose = others.contains .verbose := by
    simp [h.perm.mem_iff]
  simp only [asked, lastOf, h.values, hverbose]

/-- The values of options do not depend on the records that are asked for. -/
theorem valuesOf_filter (o : ValueOption) (settings : List Setting) :
    valuesOf o (settings.filter (· ≠ .verbose)) = valuesOf o settings := by
  rw [valuesOf, valuesOf, List.filterMap_filter]
  congr 1
  funext s
  cases s with
  | verbose => rfl
  | value p text => simp

/-- Nothing else is asked for together with records. -/
theorem SameButVerbose.asked_eq (h : SameButVerbose settings others) :
    asked settings = { asked others with verbose := settings.contains .verbose } := by
  have hvalues : ∀ o, valuesOf o settings = valuesOf o others := by
    intro o
    rw [← valuesOf_filter o settings, h, valuesOf_filter]
  simp only [asked, lastOf, hvalues]

/-- What is printed does not depend on the records that are asked for. -/
theorem printed_perform [Markup.Evaluation] (r : Request) (verbose : Bool) :
    ({ r with verbose := verbose } : Request).perform.map (·.printed) =
      r.perform.map (·.printed) := by
  have hbuilder : ({ r with verbose := verbose } : Request).builder = r.builder := rfl
  rw [Request.perform, Request.perform, hbuilder]
  cases r.builder with
  | error e => rfl
  | ok b =>
    dsimp only
    cases Report.print pageWidth (Destination.report pageWidth) b.make.result <;> rfl

/-! ### Destinations -/

/-- A text that counts if it is not empty. -/
def given (text : String) : List String := if text = "" then [] else [text]

/-- What is assigned to properties, in order: the written pairs, then the address, the address of
the instance and the TLS version, each of which counts if its last value is not empty. -/
def assigned (settings : List Setting) (written : List Assignment) : List (String × String) :=
  written.map (fun a => (a.key, a.value)) ++
    (given (lastOf .uri settings)).map (PropertyKey.url.name, ·) ++
    (given (lastOf .instanceName settings)).map
      (fun name => (PropertyKey.url.name, instanceAddress name)) ++
    (given (lastOf .tlsVersion settings)).map (PropertyKey.tlsVersion.name, ·)

/-- Assignments with that of the default address, if they leave the address unset. -/
def completed (pairs : List (String × String)) : List (String × String) :=
  if ∃ p ∈ pairs, p.1 = PropertyKey.url.name then pairs
  else pairs ++ [(PropertyKey.url.name, defaultAddress)]

/-- The headers that are added, in order: the written ones, and then those with fixed names, each of
which counts if its last value is not empty. -/
def added (settings : List Setting) (written : List Header) : List Header :=
  written ++ Request.fixedHeaders.flatMap fun h =>
    (given (lastOf (optionOf h) settings)).map (Header.mk h.name)

/-- Entries of texts. -/
def entriesOf (pairs : List (String × String)) : List (Value × Value) :=
  pairs.map fun p => (.text p.1, .text p.2)

/-- The destination that settings describe. -/
structure IsResult (settings : List Setting) (d : Destination) : Prop where
  properties : ∃ written, (valuesOf .property settings).mapM Assignment.ofText = .ok written ∧
    d.properties = .ofEntries (Value.putAll (entriesOf (completed (assigned settings written))))
  headers : ∃ written, (valuesOf .header settings).mapM Header.ofLine = .ok written ∧
    d.headers = (added settings written).map fun h => .header (.text h.name) (.text h.value)
  providers : d.providers = []
  proxy : derive d.properties = .ok d.proxy

/-! ### Assignments -/

/-- Texts are names. -/
theorem areNamed_entriesOf (pairs : List (String × String)) :
    Value.AreNamed (entriesOf pairs) := by
  intro e he
  obtain ⟨p, _, rfl⟩ := List.mem_map.1 he
  exact Value.isName_of_isKey rfl

/-- What is found under a text is the value of the first pair with it. -/
theorem entry?_entriesOf (pairs : List (String × String)) (k : String) :
    Value.entry? (entriesOf pairs) (.text k) = (pairs.find? (·.1 = k)).map fun p => .text p.2 := by
  have hsame : ∀ p : String × String, Value.sameKey (.text p.1) (.text k) = decide (p.1 = k) := by
    intro p
    rw [Bool.eq_iff_iff, Value.sameKey_text_iff (Value.isName_of_isKey rfl), decide_eq_true_iff]
    exact Option.some_inj
  induction pairs with
  | nil => rfl
  | cons p rest ih =>
    rw [entriesOf, List.map_cons, Value.entry?_cons, hsame, List.find?_cons, ← entriesOf, ih]
    by_cases h : p.1 = k <;> simp [h]

/-- Under a name stands what is assigned to it last. -/
theorem entry?_putAll_entriesOf (pairs : List (String × String)) (k : String) :
    Value.entry? (Value.putAll (entriesOf pairs)) (.text k) =
      (pairs.reverse.find? (·.1 = k)).map fun p => .text p.2 := by
  rw [Value.entry?_putAll (areNamed_entriesOf pairs) (Value.isName_of_isKey rfl), entriesOf,
    ← List.map_reverse, ← entriesOf, entry?_entriesOf]

/-- What is assigned later is put on top. -/
theorem putAll_entriesOf_append (pairs more : List (String × String)) :
    Value.putAll (entriesOf (pairs ++ more)) = more.foldl
      (fun entries p => Value.putEntry entries (.text p.1) (.text p.2))
      (Value.putAll (entriesOf pairs)) := by
  simp only [entriesOf, Value.putAll, List.map_append, List.foldl_append, List.foldl_map]

/-- A text that is given is put. -/
theorem entries_ite_given (d : Draft) (text name : String) (f : String → String) :
    (if text = "" then d else d.put (.text name) (.text (f text))).entries =
      ((given text).map fun x => (name, f x)).foldl
        (fun entries p => Value.putEntry entries (.text p.1) (.text p.2)) d.entries := by
  rw [given]
  split <;> rfl

/-- A draft holds what is assigned. -/
theorem entries_draft (settings : List Setting) (written : List Assignment) :
    ((asked settings).draft written).entries =
      Value.putAll (entriesOf (assigned settings written)) := by
  have hwritten : ∀ d : Draft,
      (written.foldl (fun d a => d.put (.text a.key) (.text a.value)) d).entries =
        written.foldl (fun entries a => Value.putEntry entries (.text a.key) (.text a.value))
          d.entries := by
    -- By induction on what is written, for every draft to begin with.
    induction written with
    | nil => exact fun d => rfl
    | cons a rest ih => exact fun d => ih _
  have hpairs : Draft.entries
      (written.foldl (fun d a => d.put (.text a.key) (.text a.value)) {}) =
        Value.putAll (entriesOf (written.map fun a => (a.key, a.value))) := by
    rw [hwritten, Value.putAll, entriesOf, List.map_map, List.foldl_map]
    rfl
  -- Written assignments, the address, the instance and the version are put in after each other.
  rw [assigned, putAll_entriesOf_append, putAll_entriesOf_append, putAll_entriesOf_append, ← hpairs,
    ← entries_ite_given _ _ _ fun x => x, ← entries_ite_given, ← entries_ite_given _ _ _ fun x => x]
  rfl

/-- The properties that result are what is assigned, with the default address if there is none. -/
theorem resulting_draft {b : Builder} {settings : List Setting} {written : List Assignment}
    (h : b.draft = (asked settings).draft written) : resulting b =
      .ofEntries (Value.putAll (entriesOf (completed (assigned settings written)))) := by
  -- The draft has an address exactly when one was assigned.
  have hfound : (Value.entry? b.draft.entries (.text PropertyKey.url.name)).isSome = true ↔
      ∃ p ∈ assigned settings written, p.1 = PropertyKey.url.name := by
    rw [h, entries_draft, entry?_putAll_entriesOf, Option.isSome_map, List.find?_isSome]
    simp
  have hbuild : ∀ d : Draft, d.build id = .ofEntries d.entries := by
    intro d
    exact congrArg Properties.ofEntries (List.map_id _)
  rw [resulting, hbuild, Builder.withAddress_eq, completed]
  by_cases hurl : ∃ p ∈ assigned settings written, p.1 = PropertyKey.url.name
  · rw [if_pos (hfound.2 hurl), if_pos hurl, h, entries_draft]
  · rw [if_neg fun hsome => hurl (hfound.1 hsome), if_neg hurl, putAll_entriesOf_append,
      ← entries_draft, ← h]
    rfl

/-! ### The address -/

/-- The address that settings give: that of the instance, or else the one that is set, or else the
last one among the written properties, or else the default one. -/
def addressOf (settings : List Setting) (written : List Assignment) : String :=
  if lastOf .instanceName settings ≠ "" then instanceAddress (lastOf .instanceName settings)
  else if lastOf .uri settings ≠ "" then lastOf .uri settings
  else ((written.reverse.find? (·.key = PropertyKey.url.name)).map (·.value)).getD defaultAddress

/-- Completed assignments end in an address. -/
theorem find?_completed (pairs : List (String × String)) :
    (completed pairs).reverse.find? (·.1 = PropertyKey.url.name) =
      some ((pairs.reverse.find? (·.1 = PropertyKey.url.name)).getD
        (PropertyKey.url.name, defaultAddress)) := by
  rw [completed]
  -- An address is there and found, or is the default that was put behind.
  split
  · rename_i hurl
    have hsome : (pairs.reverse.find? (·.1 = PropertyKey.url.name)).isSome = true := by
      rw [List.find?_isSome]
      simpa using hurl
    obtain ⟨p, hp⟩ := Option.isSome_iff_exists.1 hsome
    rw [hp]
    rfl
  · rename_i hurl
    have hnone : pairs.reverse.find? (·.1 = PropertyKey.url.name) = none := by
      rw [List.find?_eq_none]
      intro p hp heq
      exact hurl ⟨p, List.mem_reverse.1 hp, of_decide_eq_true heq⟩
    rw [hnone]
    simp

/-- The last address that is assigned. -/
theorem find?_assigned (settings : List Setting) (written : List Assignment) :
    ((completed (assigned settings written)).reverse.find? (·.1 = PropertyKey.url.name)).map
      (·.2) = some (addressOf settings written) := by
  have hwritten : ((written.map fun a => (a.key, a.value)).reverse.find?
      (·.1 = PropertyKey.url.name)).map (·.2) =
        (written.reverse.find? (·.key = PropertyKey.url.name)).map (·.value) := by
    rw [← List.map_reverse, List.find?_map, Option.map_map]
    rfl
  -- The TLS version stands behind all addresses and is none.
  have hversion : ((given (lastOf .tlsVersion settings)).map
      (PropertyKey.tlsVersion.name, ·)).reverse.find? (·.1 = PropertyKey.url.name) = none := by
    have hne : PropertyKey.tlsVersion.name ≠ PropertyKey.url.name := by decide
    rw [List.find?_eq_none]
    simp [hne]
  rw [find?_completed, assigned, List.reverse_append, List.find?_append, hversion, Option.none_or,
    List.reverse_append, List.find?_append, List.reverse_append, List.find?_append, addressOf,
    ← hwritten]
  -- An instance name comes last, then the option for the address, then what was written out.
  by_cases hinstance : lastOf .instanceName settings = ""
  · by_cases huri : lastOf .uri settings = ""
    · simp only [given, hinstance, huri, if_pos, ne_eq, not_true, if_false, List.map_nil,
        List.reverse_nil, List.find?_nil, Option.none_or, Option.map_some]
      cases (written.map fun a => (a.key, a.value)).reverse.find?
        (·.1 = PropertyKey.url.name) <;> rfl
    · simp [given, hinstance, huri]
  · simp [given, hinstance]

/-- The address of the destination that settings describe. -/
theorem IsResult.address {d : Destination} (h : IsResult settings d) : ∃ written,
    (valuesOf .property settings).mapM Assignment.ofText = .ok written ∧
      d.properties.get? (.text PropertyKey.url.name) =
        some (.text (addressOf settings written)) := by
  obtain ⟨written, hwritten, hproperties⟩ := h.properties
  refine ⟨written, hwritten, ?_⟩
  -- The last assignment of the name decides, whether it is a property or the address.
  have hlast := congrArg (Option.map fun s => (Value.text s).freeze)
    (find?_assigned settings written)
  rw [Option.map_map] at hlast
  rw [hproperties, Properties.get?_ofEntries, entry?_putAll_entriesOf, Option.map_map]
  exact hlast

/-! ### Requests -/

/-- The pairs of a request are those that are written. -/
theorem assignments_eq_ok {r : Request} {written : List Assignment} :
    r.assignments = .ok written ↔ r.properties.mapM Assignment.ofText = .ok written := by
  have hstep : r.assignments =
      r.properties.mapM fun raw => (Assignment.ofText raw).mapError (.pair .property) := by
    rw [Request.assignments]
    congr 1
    funext raw
    cases Assignment.ofText raw <;> rfl
  rw [hstep, mapM_mapError, mapError_eq_ok]

/-- The headers of a request are those that are written. -/
theorem headerLines_eq_ok {r : Request} {written : List Header} :
    r.headerLines = .ok written ↔ r.headers.mapM Header.ofLine = .ok written := by
  have hstep : r.headerLines =
      r.headers.mapM fun raw => (Header.ofLine raw).mapError (.pair .header) := by
    rw [Request.headerLines]
    congr 1
    funext raw
    cases Header.ofLine raw <;> rfl
  rw [hstep, mapM_mapError, mapError_eq_ok]

/-- The headers of a request are those that are added. -/
theorem allHeaders_asked (settings : List Setting) (written : List Header) :
    (asked settings).allHeaders written = added settings written := by
  rw [Request.allHeaders, added, List.filterMap_eq_flatMap_toList]
  congr 1
  apply List.flatMap_congr
  intro h _
  show (if lastOf (optionOf h) settings = "" then none else some _).toList = _
  rw [given]
  by_cases hempty : lastOf (optionOf h) settings = "" <;> simp [hempty, asked]

/-- What a request makes is the destination that the settings describe. -/
theorem exists_made_iff {d : Destination} :
    (∃ b, (asked settings).builder = .ok b ∧ b.make.result = .ok d) ↔ IsResult settings d := by
  constructor
  -- The two readers succeed on the way to the destination, and these are the parts of the
  -- description.
  · rintro ⟨b, hb, hmake⟩
    obtain ⟨pairs, hpairs, hb⟩ := bind_eq_ok.1 hb
    obtain ⟨lines, hlines, hb⟩ := bind_eq_ok.1 hb
    cases hb
    obtain ⟨proxy, hproxy, rfl⟩ := make_eq_ok.1 hmake
    refine ⟨⟨pairs, assignments_eq_ok.1 hpairs, resulting_draft rfl⟩,
      ⟨lines, headerLines_eq_ok.1 hlines, ?_⟩, rfl, hproxy⟩
    rw [← allHeaders_asked]
  -- Each part of the description is what a reader gives.
  · intro h
    obtain ⟨pairs, hpairs, hproperties⟩ := h.properties
    obtain ⟨lines, hlines, hheaders⟩ := h.headers
    refine ⟨_, bind_eq_ok.2 ⟨pairs, assignments_eq_ok.2 hpairs,
      bind_eq_ok.2 ⟨lines, headerLines_eq_ok.2 hlines, rfl⟩⟩, make_eq_ok.2 ⟨d.proxy, ?_, ?_⟩⟩
    · rw [resulting_draft rfl, ← hproperties]
      exact h.proxy
    · rw [resulting_draft rfl, ← hproperties, allHeaders_asked, ← hheaders, ← h.providers]

/-! ### Command lines -/

/-- A command line calls for settings: it names the command and writes them down. -/
def CallsFor (arguments : List String) (settings : List Setting) : Prop :=
  ∃ rest, commandArguments arguments = .ok (some rest) ∧ Writes settings rest

/-- A command line stands for the settings that it calls for. -/
theorem CallsFor.invocation (h : CallsFor arguments settings) :
    Invocation.of arguments = .ok (.settings settings) := by
  obtain ⟨rest, harguments, hwrites⟩ := h
  rw [Invocation.of, harguments]
  exact Invocation.ofArguments_eq_settings.2 hwrites

/-! ### Reports -/

section

variable [Markup.Evaluation]

/-- A report is printed when the destination is made and can be shown. -/
theorem print_eq_reported {width : Nat} {lines : List (List Char)}
    {report : Destination → Except ReportError (List (List Char))}
    {made : Except DerivationError Destination} :
    Report.print width report made = .ok ⟨0, lines⟩ ↔ ∃ d, made = .ok d ∧ report d = .ok lines := by
  -- The exit code tells an error from a report.
  have herror : ∀ e, Report.printError width e ≠ .ok ⟨0, lines⟩ := by
    intro e h
    obtain ⟨_, _, heq⟩ := printError_eq_ok.1 h
    cases heq
  constructor
  · intro h
    cases made with
    | error e =>
      cases e with
      | proxy f => exact absurd h (herror _)
      | hostName f => cases h
      | url f => cases h
      | portDigits => cases h
    | ok d =>
      refine ⟨d, rfl, ?_⟩
      rw [Report.print] at h
      split at h
      · rename_i hreport
        cases h
        exact hreport
      · exact absurd h (herror _)
      · cases h
  · rintro ⟨d, rfl, hreport⟩
    rw [Report.print, hreport]

/-- What is printed for a request, if something is. -/
theorem printed_perform_eq_ok {r : Request} {printed : Printed} :
    r.perform.map (·.printed) = .ok printed ↔ ∃ b, r.builder = .ok b ∧
      Report.print pageWidth (Destination.report pageWidth) b.make.result = .ok printed := by
  rw [Request.perform]
  cases r.builder with
  | error e => simp [Except.map]
  | ok b =>
    dsimp only
    cases hprint : Report.print pageWidth (Destination.report pageWidth) b.make.result <;>
      simp [Except.map, hprint]

/-- A request is answered with a report when the destination that the settings describe can be
shown. -/
theorem reported_iff {lines : List (List Char)} :
    (asked settings).perform.map (·.printed) = .ok ⟨0, lines⟩ ↔
      ∃ d, IsResult settings d ∧ d.report pageWidth = .ok lines := by
  simp only [printed_perform_eq_ok, print_eq_reported, ← exists_made_iff]
  constructor
  · rintro ⟨b, hb, d, hmake, hreport⟩
    exact ⟨d, ⟨b, hb, hmake⟩, hreport⟩
  · rintro ⟨d, ⟨b, hb, hmake⟩, hreport⟩
    exact ⟨b, hb, d, hmake, hreport⟩

/-- A command line does what its settings ask for. -/
theorem run_eq (h : CallsFor arguments settings) :
    run arguments helpLines = (asked settings).perform := by
  rw [run, h.invocation, ← ofSettings_eq]

/-- A command line does the same in whatever order its options are written, as long as the values of
each option keep their order, and prints the same whether or not records are asked for. It ends well
just if the destination that its settings describe can be shown, and prints the report of it. -/
theorem run_of_callsFor (helpLines : Topic → List (List Char))
    (h : CallsFor arguments settings) (h' : CallsFor arguments' others) :
    (IsReordering settings others → run arguments helpLines = run arguments' helpLines) ∧
      (SameButVerbose settings others → (run arguments helpLines).map (·.printed) =
        (run arguments' helpLines).map (·.printed)) ∧
      ∀ lines, (run arguments helpLines).map (·.printed) = .ok ⟨0, lines⟩ ↔
        ∃ d, IsResult settings d ∧ d.report pageWidth = .ok lines := by
  -- What a command line does depends on the settings that are read from it.
  rw [run_eq h, run_eq h']
  refine ⟨fun hsame => ?_, fun hsame => ?_, fun lines => reported_iff⟩
  · rw [hsame.asked_eq]
  · rw [hsame.asked_eq, printed_perform]

end

/-- Options in two orders, with long and short forms, an empty value and an option given twice. -/
theorem run_of_callsFor_mixed :
    let settings : List Setting := [.value .uri "", .value .property "URL=http://a", .verbose,
      .value .header "X: 1", .value .instanceName "abc", .value .property "K=v",
      .value .destinationName "orders", .value .header "Y: 2"]
    let others : List Setting := [.value .header "X: 1", .value .destinationName "orders",
      .value .header "Y: 2", .value .property "URL=http://a", .value .uri "",
      .value .property "K=v", .value .instanceName "abc", .verbose]
    let arguments := ["show", "--uri=", "-pURL=http://a", "-vH", "X: 1", "--instance-name", "abc",
      "--property", "K=v", "--destination-name=orders", "-HY: 2"]
    let arguments' := ["show", "-H", "X: 1", "--destination-name", "orders", "--header=Y: 2",
      "--property=URL=http://a", "--uri", "", "-p", "K=v", "--instance-name=abc", "--verbose", "--"]
    CallsFor arguments settings ∧ CallsFor arguments' others ∧ IsReordering settings others ∧
      run arguments = run arguments' ∧
      ∃ d lines, (run arguments).map (·.printed) = .ok ⟨0, lines⟩ ∧ IsResult settings d ∧
        d.report pageWidth = .ok lines := by
  intro settings others arguments arguments'
  -- Either command line writes down its settings, which the reader confirms.
  have hcalls : CallsFor arguments settings :=
    ⟨_, rfl, Invocation.ofArguments_eq_settings.1 (by decide +kernel)⟩
  have hcalls' : CallsFor arguments' others :=
    ⟨_, rfl, Invocation.ofArguments_eq_settings.1 (by decide +kernel)⟩
  have horder : IsReordering settings others :=
    ⟨by decide, fun o => by cases o <;> rfl⟩
  obtain ⟨hsame, _, hreported⟩ := run_of_callsFor (fun _ => []) hcalls hcalls'
  have hcode : ((run arguments).map (·.printed.code)).toOption = some 0 := by decide +kernel
  obtain ⟨o, ho, hzero⟩ := map_eq_ok.1 (toOption_eq_some.1 hcode)
  have hprinted : (run arguments).map (·.printed) = .ok ⟨0, o.printed.lines⟩ := by
    rw [ho, ← hzero]
    rfl
  obtain ⟨d, hd, hlines⟩ := (hreported o.printed.lines).1 hprinted
  exact ⟨hcalls, hcalls', horder, hsame horder, d, _, hprinted, hd, hlines⟩

end Egress.Command
