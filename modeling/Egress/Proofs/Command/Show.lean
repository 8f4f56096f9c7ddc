import Egress.Command.Show
import Egress.Proofs.Builder.Contents
import Egress.Proofs.Proxy.Failure
import Egress.Proofs.Report.ErrorLine
import Egress.Proofs.Report.Sheet
import Egress.Proofs.Value.Plain

/-!
# How the command ends

The command prints two panels and ends well, or it prints one error and ends with the code 1, unless
it is asked for help. It does so only if the derivation of the proxy configuration does not escape
and what is shown can be read as markup: the text of the error, or else the address of the proxy,
the TLS version, the names of the headers and their values. It does so then if the styles that are
named there can be looked up, too.

## Key results

- `EndsAsPromised`: the two ways to end
- `ShowsMarkup`: the texts that are read as markup
- `endsAsPromised_of_obstacle`, `endsAsPromised_of_report`: which outcomes are as promised
- `help_or_endsAsPromised`: the command lines that ask for help or end as promised
-/

namespace Egress.Command

open ProxyConfiguration (derive Escapes Escaped)

variable {r : Request} {b : Builder} {p : Properties}

/-! ### The ways to end -/

/-- The properties of the destination that a builder builds. -/
def resulting (b : Builder) : Properties := b.withAddress.draft.build id

/-- The request that a command line stands for. -/
def StandsFor (arguments : List String) (r : Request) : Prop :=
  ∃ settings, Invocation.of arguments = .ok (.settings settings) ∧ r = .ofSettings settings

/-- A command line asks for help about a topic. -/
def AsksForHelp (arguments : List String) (topic : Topic) : Prop :=
  Invocation.of arguments = .ok (.help topic)

/-- The error that stands in the way of a report: of the proxy, or else of the address. -/
inductive Obstacle (p : Properties) : DestinationError → Prop
  | proxy {e : ProxyError} (h : derive p = .error (.proxy e)) : Obstacle p (.proxy e)
  | address {proxy : Option ProxyConfiguration} {e : DestinationError}
    (derived : derive p = .ok proxy) (h : p.uri = .error e) : Obstacle p e

/-- The lines are those of a panel with a title and so many rows. -/
def IsPanel (title : String) (rows : Nat) (lines : List (List Char)) : Prop :=
  ∃ table : Layout.Table, table.rows.length = rows ∧
    lines = (Layout.Panel.mk title.toList table).lines pageWidth

/-- The two ways in which the command ends: with both panels and nothing else if the proxy
configuration can be derived and the address is accepted, and with one error otherwise. -/
inductive EndsAsPromised [Markup.Evaluation] (b : Builder) : Except CommandError Outcome → Prop
  | reported {proxy : Option ProxyConfiguration} {u : Url} {o : Outcome}
    {overview headers : List (List Char)} (derived : derive (resulting b) = .ok proxy)
    (accepted : (resulting b).uri = .ok u) (code : o.printed.code = 0)
    (first : IsPanel "Destination" 6 overview) (second : IsPanel "Headers" b.headers.length headers)
    (lines : o.printed.lines = overview ++ headers) : EndsAsPromised b (.ok o)
  | failed {e : DestinationError} {o : Outcome} (obstacle : Obstacle (resulting b) e)
    (code : o.printed.code = 1) (lines : e.report pageWidth = .ok o.printed.lines) :
    EndsAsPromised b (.ok o)

/-- The texts that are read as markup. -/
inductive ShowsMarkup (b : Builder) : String → Prop
  | error {e : DestinationError} (obstacle : Obstacle (resulting b) e) : ShowsMarkup b e.markup
  | proxy {c : ProxyConfiguration} {u : Url} (derived : derive (resulting b) = .ok (some c))
    (accepted : (resulting b).uri = .ok u) : ShowsMarkup b c.uri.text
  | version {proxy : Option ProxyConfiguration} {u : Url} {s : String}
    (derived : derive (resulting b) = .ok proxy) (accepted : (resulting b).uri = .ok u)
    (set : (resulting b).readText? .tlsVersion = .ok (some s)) : ShowsMarkup b s
  | name {proxy : Option ProxyConfiguration} {u : Url} {n v : String}
    (derived : derive (resulting b) = .ok proxy) (accepted : (resulting b).uri = .ok u)
    (header : .header (.text n) (.text v) ∈ b.headers) : ShowsMarkup b n
  | value {proxy : Option ProxyConfiguration} {u : Url} {n v : String}
    (derived : derive (resulting b) = .ok proxy) (accepted : (resulting b).uri = .ok u)
    (header : .header (.text n) (.text v) ∈ b.headers) : ShowsMarkup b v

/-- A text can be read as markup. -/
def Readable [Markup.Evaluation] (s : String) : Prop := ∃ t, Markup.plain s.toList = .ok t

/-- The styles that are named in a text with markup can be looked up. -/
def HasStyles (s : String) : Prop := Markup.lookUpStyles s.toList = .ok ()

/-- A text can be read as markup and drawn. -/
structure IsDrawable [Markup.Evaluation] (s : String) : Prop where
  readable : Readable s
  styles : HasStyles s

/-! ### Requests -/

/-- A command line that asks for help is answered with it. -/
theorem run_of_asksForHelp [Markup.Evaluation] {arguments : List String} {topic : Topic}
    {helpLines : Topic → List (List Char)} (h : AsksForHelp arguments topic) :
    run arguments helpLines = .ok ⟨⟨0, helpLines topic⟩, []⟩ := by
  rw [run, h]

/-- A command line that stands for a request does what that asks for. -/
theorem run_of_standsFor [Markup.Evaluation] {arguments : List String}
    {helpLines : Topic → List (List Char)} (h : StandsFor arguments r) :
    run arguments helpLines = r.perform := by
  obtain ⟨settings, hsettings, rfl⟩ := h
  rw [run, hsettings]

/-- A command line with right arguments asks for help or stands for a request. -/
theorem help_or_standsFor [Markup.Evaluation] {arguments : List String}
    {helpLines : Topic → List (List Char)}
    (h : ∀ e, run arguments helpLines ≠ .error (.usage e)) :
    (∃ topic, AsksForHelp arguments topic) ∨
      ∃ r b, StandsFor arguments r ∧ r.builder = .ok b := by
  -- A usage error is excluded by the hypothesis at each place where one can arise.
  cases hcall : Invocation.of arguments with
  | error e => exact absurd (by rw [run, hcall]) (h e)
  | ok invocation =>
    cases invocation with
    | help topic => exact .inl ⟨topic, hcall⟩
    | settings settings =>
      have hstands : StandsFor arguments (.ofSettings settings) := ⟨settings, hcall, rfl⟩
      cases hbuilder : (Request.ofSettings settings).builder with
      | error e =>
        refine absurd ?_ (h e)
        rw [run_of_standsFor hstands, Request.perform, hbuilder]
      | ok b => exact .inr ⟨_, b, hstands, hbuilder⟩

/-- The values of a draft are texts. -/
def HasTexts (d : Draft) : Prop := ∀ e ∈ d.entries, ∃ t, e.2 = .text t

/-- Assigning a text keeps the values texts. -/
theorem HasTexts.put {d : Draft} (h : HasTexts d) (n : Value) (t : String) :
    HasTexts (d.put n (.text t)) := fun e he =>
  Value.forall_snd_putEntry (Q := fun v => ∃ t, v = .text t) h ⟨t, rfl⟩ e he

/-- The values of a request's properties are texts. -/
theorem hasTexts_draft (r : Request) (assignments : List Assignment) :
    HasTexts (r.draft assignments) := by
  -- Written assignments put in texts, and so does each option that is given.
  have hall : ∀ d, HasTexts d →
      HasTexts (assignments.foldl (fun d a => d.put (.text a.key) (.text a.value)) d) := by
    induction assignments with
    | nil => exact fun d h => h
    | cons a rest ih => exact fun d h => ih _ (h.put _ _)
  have hgiven : ∀ {d : Draft} {key : PropertyKey} {given value : String}, HasTexts d →
      HasTexts (if given = "" then d else d.put (.text key.name) (.text value)) := by
    intro d key given value h
    split
    · exact h
    · exact h.put _ _
  exact hgiven (hgiven (hgiven (hall {} (List.forall_mem_nil _))))

/-- A request describes a builder of texts. -/
theorem texts_of_builder (h : r.builder = .ok b) :
    HasTexts b.draft ∧ (∃ texts : List (String × String),
      b.headers = texts.map fun t => .header (.text t.1) (.text t.2)) ∧ b.providers = [] := by
  obtain ⟨assignments, _, h⟩ := bind_eq_ok.1 h
  obtain ⟨headers, _, h⟩ := bind_eq_ok.1 h
  cases h
  refine ⟨hasTexts_draft r assignments, ⟨(r.allHeaders headers).map fun h => (h.name, h.value), ?_⟩,
    rfl⟩
  rw [List.map_map]
  rfl

/-! ### Destinations of texts -/

/-- The default address is a text. -/
theorem HasTexts.withAddress (h : HasTexts b.draft) : HasTexts b.withAddress.draft := by
  rw [Builder.withAddress_eq]
  split
  · exact h
  · exact h.put _ _

/-- The properties that result are texts. -/
theorem text_of_get? (h : HasTexts b.draft) {k v : Value} (hv : (resulting b).get? k = some v) :
    ∃ t, v = .text t := by
  rw [resulting, Draft.get?_build, Option.map_eq_some_iff] at hv
  obtain ⟨w, hw, rfl⟩ := hv
  obtain ⟨e, he, rfl⟩ := Option.map_eq_some_iff.1 hw
  obtain ⟨t, ht⟩ := h.withAddress e (List.mem_of_find?_eq_some he)
  exact ⟨t, by rw [id, ht]; rfl⟩

/-- Every text that results can be read. -/
theorem exists_readText? (h : HasTexts b.draft) (key : PropertyKey) :
    ∃ t, (resulting b).readText? key = .ok t := by
  rw [Properties.readText?]
  cases hv : (resulting b).get? (.text key.name) with
  | none => exact ⟨none, rfl⟩
  | some v =>
    obtain ⟨t, rfl⟩ := text_of_get? h hv
    exact ⟨some t, rfl⟩

/-- The address that results is a text. -/
theorem exists_address (h : HasTexts b.draft) : ∃ raw,
    ((resulting b).get? (.text PropertyKey.url.name)).bind Value.text? = some raw := by
  obtain ⟨v, hv⟩ := Option.isSome_iff_exists.1 b.isSome_withAddress
  have hget : (resulting b).get? (.text PropertyKey.url.name) = some v.freeze := by
    rw [resulting, Draft.get?_build, hv]
    rfl
  obtain ⟨raw, hraw⟩ := text_of_get? h hget
  exact ⟨raw, by rw [hget, hraw]; rfl⟩

/-- Headers of texts are shown with their texts. -/
theorem headerSheet_of_builder {texts : List (String × String)}
    (h : b.headers = texts.map fun t => .header (.text t.1) (.text t.2)) :
    Report.headerSheet b.headers = .ok (Report.textSheet texts) := by
  refine Report.headerSheet_of_texts ?_
  rw [h]
  clear h
  induction texts with
  | nil => rfl
  | cons t rest ih =>
    rw [List.map_cons, List.mapM_cons, ih]
    rfl

/-! ### Destinations with an obstacle -/

/-- Only one error can stand in the way. -/
theorem Obstacle.unique {e f : DestinationError} (he : Obstacle p e) (hf : Obstacle p f) :
    e = f := by
  cases he with
  | proxy h => cases hf with
    | proxy h' => rw [h] at h'; cases h'; rfl
    | address h' _ => rw [h] at h'; cases h'
  | address h hu => cases hf with
    | proxy h' => rw [h] at h'; cases h'
    | address _ hu' => rw [hu] at hu'; cases hu'; rfl

/-- Nothing stands in the way of a report with a proxy configuration and an address. -/
theorem Obstacle.elim {e : DestinationError} (he : Obstacle p e)
    {proxy : Option ProxyConfiguration} {u : Url} (derived : derive p = .ok proxy)
    (accepted : p.uri = .ok u) : False := by
  cases he with
  | proxy h => rw [h] at derived; cases derived
  | address _ h => rw [h] at accepted; cases accepted

/-- With an obstacle, what is read as markup is the text of the error. -/
theorem forall_showsMarkup_of_obstacle {Q : String → Prop} {e : DestinationError}
    (he : Obstacle (resulting b) e) : (∀ s, ShowsMarkup b s → Q s) ↔ Q e.markup := by
  refine ⟨fun h => h _ (.error he), fun h s hs => ?_⟩
  cases hs with
  | error hf => exact he.unique hf ▸ h
  | proxy derived accepted => exact (he.elim derived accepted).elim
  | version derived accepted _ => exact (he.elim derived accepted).elim
  | name derived accepted _ => exact (he.elim derived accepted).elim
  | value derived accepted _ => exact (he.elim derived accepted).elim

/-- Without an obstacle, what is read as markup is the address of the proxy, the TLS version and
the texts of the headers. -/
theorem forall_showsMarkup_iff {Q : String → Prop} {proxy : Option ProxyConfiguration} {u : Url}
    {version : Option String} {texts : List (String × String)}
    (hderive : derive (resulting b) = .ok proxy)
    (huri : (resulting b).uri = .ok u)
    (hversion : (resulting b).readText? .tlsVersion = .ok version)
    (htexts : b.headers = texts.map fun t => .header (.text t.1) (.text t.2)) :
    (∀ s, ShowsMarkup b s → Q s) ↔
      ((∀ c, proxy = some c → Q c.uri.text) ∧ ∀ s, version = some s → Q s) ∧
        ∀ t ∈ texts, Q t.1 ∧ Q t.2 := by
  have hmem : ∀ {n v : String}, .header (.text n) (.text v) ∈ b.headers ↔ (n, v) ∈ texts := by
    intro n v
    rw [htexts, List.mem_map]
    constructor
    · rintro ⟨t, ht, heq⟩
      cases heq
      exact ht
    · exact fun h => ⟨_, h, rfl⟩
  constructor
  · refine fun h => ⟨⟨fun c hc => h _ (.proxy (hc ▸ hderive) huri),
      fun s hs => h s (.version hderive huri (hs ▸ hversion))⟩, fun t ht => ?_⟩
    exact ⟨h _ (.name hderive huri (hmem.2 ht)), h _ (.value hderive huri (hmem.2 ht))⟩
  · rintro ⟨⟨hproxy, hversions⟩, hheaders⟩ s (hobstacle | hc | ⟨hc, _, hset⟩ | ⟨_, _, hheader⟩ |
      ⟨_, _, hheader⟩)
    -- In the order of the ways in which markup is shown: an error, the proxy, the version, names,
    -- values.
    · exact (hobstacle.elim hderive huri).elim
    · rw [hderive] at hc
      cases hc
      exact hproxy _ rfl
    · rw [hversion] at hset
      cases hset
      exact hversions _ rfl
    · exact (hheaders _ (hmem.1 hheader)).1
    · exact (hheaders _ (hmem.1 hheader)).2

/-- What a builder makes is a destination when the proxy configuration can be derived. -/
theorem make_eq_ok {d : Destination} : b.make.result = .ok d ↔
    ∃ proxy, derive (resulting b) = .ok proxy ∧
      d = ⟨resulting b, b.headers, b.providers, proxy⟩ := by
  rw [Builder.make, Builder.build_eq_ok, b.headers_withAddress, b.providers_withAddress]
  rfl

/-- What a builder makes is an error when the derivation of the proxy configuration is one. -/
theorem make_eq_error {e : DerivationError} : b.make.result = .error e ↔
    derive (resulting b) = .error e := by
  rw [Builder.make, Builder.build_eq_error]
  rfl

section

variable [Markup.Evaluation]

/-- An obstacle is printed in place of a report. -/
theorem print_of_obstacle {e : DestinationError} (h : Obstacle (resulting b) e) :
    Report.print pageWidth (Destination.report pageWidth) b.make.result =
      Report.printError pageWidth e := by
  cases h with
  | proxy hderive => rw [make_eq_error.2 hderive, Report.print]
  | address hderive huri =>
    rw [make_eq_ok.2 ⟨_, hderive, rfl⟩, Report.print, Destination.report,
      Report.overview_of_error (d := ⟨resulting b, b.headers, b.providers, _⟩) huri]
    rfl

/-- An error is printed when its text can be read. -/
theorem printError_eq_ok {width : Nat} {e : DestinationError} {printed : Printed} :
    Report.printError width e = .ok printed ↔
      ∃ lines, e.report width = .ok lines ∧ printed = ⟨1, lines⟩ := by
  rw [Report.printError]
  cases h : e.report width <;> simp [eq_comm]

/-- Printing an error ends as promised when its text can be read and drawn. -/
theorem endsAsPromised_of_obstacle {e : DestinationError} (hb : r.builder = .ok b)
    (h : Obstacle (resulting b) e) : EndsAsPromised b r.perform ↔ IsDrawable e.markup := by
  have hwidth : pageWidth ≠ 0 := by decide
  rw [Request.perform, hb]
  simp only [print_of_obstacle h]
  -- What was printed is the error as markup, so it could be read and drawn.
  constructor
  · intro hends
    cases hprint : Report.printError pageWidth e with
    | error f => rw [hprint] at hends; cases hends
    | ok printed =>
      obtain ⟨lines, hlines, _⟩ := printError_eq_ok.1 hprint
      obtain ⟨t, ht, hstyles, _⟩ := (DestinationError.report_eq_ok hwidth).1 hlines
      exact ⟨⟨t, ht⟩, hstyles⟩
  · rintro ⟨⟨t, ht⟩, hstyles⟩
    have hlines : e.report pageWidth = .ok (Layout.wrap .fold pageWidth t) :=
      (DestinationError.report_eq_ok hwidth).2 ⟨t, ht, hstyles, rfl⟩
    rw [printError_eq_ok.2 ⟨_, hlines, rfl⟩]
    exact .failed h rfl hlines

/-- A derivation that breaks off ends the command with another error. -/
theorem not_endsAsPromised_of_escaped (hb : r.builder = .ok b)
    (h : Escaped (derive (resulting b))) : ¬EndsAsPromised b r.perform := by
  obtain ⟨e, he, hne⟩ := h
  have hprint : Report.print pageWidth (Destination.report pageWidth) b.make.result =
      .error (.derivation e) := by
    rw [make_eq_error.2 he]
    -- Only an error of the proxy configuration is caught; the others escape.
    cases e with
    | proxy f => exact absurd rfl (hne f)
    | hostName f => rfl
    | url f => rfl
    | portDigits => rfl
  rw [Request.perform, hb]
  simp only [hprint]
  intro hends
  cases hends

/-! ### Destinations that are shown -/

/-- A text in a cell can be drawn when the cell can. -/
theorem isDrawable_iff {s : String} : (Report.Cell.markup s).IsDrawable ↔ IsDrawable s :=
  ⟨fun h => ⟨h.shown, h.styles⟩, fun h => ⟨h.readable, h.styles⟩⟩

/-- The upper panel is drawn when the address of the proxy and the TLS version can be. -/
theorem exists_upper {address : String} {proxy : Option ProxyConfiguration}
    {version : Option String} :
    (∃ lines, (Report.resolvedSheet address proxy version 0).lines pageWidth = .ok lines) ↔
      (∀ c, proxy = some c → IsDrawable c.uri.text) ∧ ∀ s, version = some s → IsDrawable s := by
  -- The row of the proxy is a fixed text or its address, and the row of the version is one of
  -- three.
  have hproxy : IsDrawable (Report.proxyText proxy) ↔
      ∀ c, proxy = some c → IsDrawable c.uri.text := by
    cases proxy with
    | none => exact iff_of_true ⟨⟨_, rfl⟩, rfl⟩ (by simp)
    | some c => exact ⟨fun h d hd => Option.some.inj hd ▸ h, fun h => h c rfl⟩
  have hversion : IsDrawable (Report.versionText version) ↔
      ∀ s, version = some s → IsDrawable s := by
    cases version with
    | none => exact iff_of_true ⟨⟨_, rfl⟩, rfl⟩ (by simp)
    | some s =>
      rw [Report.versionText, Option.getD_some]
      split
      · rename_i hempty
        subst hempty
        exact iff_of_true ⟨⟨_, rfl⟩, rfl⟩ fun t ht => Option.some.inj ht ▸ ⟨⟨_, rfl⟩, rfl⟩
      · exact ⟨fun h t ht => Option.some.inj ht ▸ h, fun h => h s rfl⟩
  have hliteral : (Report.Cell.literal address).IsDrawable := ⟨⟨_, rfl⟩, rfl⟩
  rw [Report.Sheet.exists_lines (by decide), ← hproxy, ← hversion]
  simp only [Report.resolvedSheet, List.forall_mem_cons, isDrawable_iff]
  constructor
  · rintro ⟨-, -, ⟨-, hproxy⟩, ⟨-, hversion⟩, -⟩
    exact ⟨hproxy, hversion⟩
  · rintro ⟨hproxy, hversion⟩
    exact ⟨⟨⟨⟨_, rfl⟩, rfl⟩, hliteral⟩, ⟨⟨⟨_, rfl⟩, rfl⟩, ⟨_, rfl⟩, rfl⟩, ⟨⟨⟨_, rfl⟩, rfl⟩, hproxy⟩,
      ⟨⟨⟨_, rfl⟩, rfl⟩, hversion⟩, ⟨⟨⟨_, rfl⟩, rfl⟩, ⟨_, rfl⟩, rfl⟩,
      ⟨⟨⟨_, rfl⟩, rfl⟩, ⟨_, rfl⟩, rfl⟩, List.forall_mem_nil _⟩

/-- The lower panel is drawn when the names and the values of the headers can be. -/
theorem exists_lower {texts : List (String × String)} :
    (∃ lines, (Report.textSheet texts).lines pageWidth = .ok lines) ↔
      ∀ t ∈ texts, IsDrawable t.1 ∧ IsDrawable t.2 := by
  rw [Report.Sheet.exists_lines (by decide), Report.textSheet, List.forall_mem_map]
  simp only [isDrawable_iff]

/-- A report is made when both of its panels can be drawn. -/
theorem endsAsPromised_iff_drawn {proxy : Option ProxyConfiguration} {u : Url}
    {upper lower : Report.Sheet} (hb : r.builder = .ok b)
    (hderive : derive (resulting b) = .ok proxy) (huri : (resulting b).uri = .ok u)
    (hupper : Report.overview ⟨resulting b, b.headers, b.providers, proxy⟩ = .ok upper)
    (hlower : Report.headerSheet b.headers = .ok lower)
    (htitles : upper.title = "Destination" ∧ lower.title = "Headers")
    (hrows : upper.rows.length = 6 ∧ lower.rows.length = b.headers.length) :
    EndsAsPromised b r.perform ↔
      (∃ lines, upper.lines pageWidth = .ok lines) ∧
        ∃ lines, lower.lines pageWidth = .ok lines := by
  rw [Request.perform, hb]
  simp only [make_eq_ok.2 ⟨proxy, hderive, rfl⟩, Report.print, Destination.report, Report.headers,
    hupper, hlower]
  -- Both panels have been drawn if the report was made; the first that cannot be drawn ends it.
  constructor
  · intro hends
    cases hdrawn : Report.drawn pageWidth (.ok upper) with
    | error e =>
      obtain ⟨m, rfl⟩ := Report.drawn_eq_error hdrawn
      rw [hdrawn] at hends
      cases hends
    | ok above =>
      cases hdrawn' : Report.drawn pageWidth (.ok lower) with
      | error e =>
        obtain ⟨m, rfl⟩ := Report.drawn_eq_error hdrawn'
        rw [hdrawn, hdrawn'] at hends
        cases hends
      | ok below =>
        obtain ⟨_, hsheet, habove⟩ := Report.drawn_eq_ok.1 hdrawn
        obtain ⟨_, hsheet', hbelow⟩ := Report.drawn_eq_ok.1 hdrawn'
        cases hsheet
        cases hsheet'
        exact ⟨⟨above, habove⟩, below, hbelow⟩
  · rintro ⟨⟨above, habove⟩, below, hbelow⟩
    -- What is drawn has a table in a panel, with the title and the rows of its sheet.
    rw [Report.drawn_eq_ok.2 ⟨upper, rfl, habove⟩, Report.drawn_eq_ok.2 ⟨lower, rfl, hbelow⟩]
    obtain ⟨table, htable, hpanel⟩ := Report.Sheet.panel_of_lines (by decide) habove
    obtain ⟨table', htable', hpanel'⟩ := Report.Sheet.panel_of_lines (by decide) hbelow
    rw [htitles.1] at hpanel
    rw [htitles.2] at hpanel'
    exact .reported hderive huri rfl ⟨table, htable.trans hrows.1, hpanel⟩
      ⟨table', htable'.trans hrows.2, hpanel'⟩ rfl

/-- A report ends as promised when what is read as markup can be read and drawn. -/
theorem endsAsPromised_of_report {proxy : Option ProxyConfiguration} {u : Url}
    (hb : r.builder = .ok b) (hderive : derive (resulting b) = .ok proxy)
    (huri : (resulting b).uri = .ok u) :
    EndsAsPromised b r.perform ↔ ∀ s, ShowsMarkup b s → IsDrawable s := by
  obtain ⟨hdraft, ⟨texts, htexts⟩, hproviders⟩ := texts_of_builder hb
  -- The parts of the destination that the report shows are texts, so its sheets are known.
  obtain ⟨raw, hraw⟩ := exists_address hdraft
  obtain ⟨version, hversion⟩ := exists_readText? hdraft .tlsVersion
  have hupper : Report.overview ⟨resulting b, b.headers, b.providers, proxy⟩ =
      .ok (Report.resolvedSheet raw proxy version 0) := by
    rw [hproviders]
    exact Report.overview_of_texts (d := ⟨resulting b, b.headers, [], proxy⟩) huri hraw hversion
  have hrows : (Report.textSheet texts).rows.length = b.headers.length := by
    rw [htexts, Report.textSheet, List.length_map, List.length_map]
  rw [endsAsPromised_iff_drawn hb hderive huri hupper (headerSheet_of_builder htexts) ⟨rfl, rfl⟩
    ⟨rfl, hrows⟩, exists_upper, exists_lower,
    forall_showsMarkup_iff hderive huri hversion htexts]

/-! ### Command lines -/

/-- A request ends as promised unless the derivation escapes or what is shown cannot be read and
drawn. -/
theorem endsAsPromised_of_builder (hb : r.builder = .ok b) :
    EndsAsPromised b r.perform ↔
      ¬Escapes (resulting b) ∧ ∀ s, ShowsMarkup b s → IsDrawable s := by
  rw [← ProxyConfiguration.escaped_derive]
  -- Either the derivation fails, as it should or not, or the address does, or there is a report.
  cases hderive : derive (resulting b) with
  | error f =>
    by_cases hf : ∃ e, f = .proxy e
    · obtain ⟨e, rfl⟩ := hf
      have he : Obstacle (resulting b) (.proxy e) := .proxy hderive
      rw [endsAsPromised_of_obstacle hb he, forall_showsMarkup_of_obstacle he,
        and_iff_right (ProxyConfiguration.not_escaped_proxy e)]
    · have hesc : Escaped (derive (resulting b)) := ⟨f, hderive, fun e he => hf ⟨e, he⟩⟩
      refine iff_of_false (not_endsAsPromised_of_escaped hb hesc) fun h => h.1 ?_
      rw [← hderive]
      exact hesc
  | ok proxy =>
    rw [and_iff_right (ProxyConfiguration.not_escaped_ok proxy)]
    cases huri : (resulting b).uri with
    | error e =>
      have he : Obstacle (resulting b) e := .address hderive huri
      rw [endsAsPromised_of_obstacle hb he, forall_showsMarkup_of_obstacle he]
    | ok u => exact endsAsPromised_of_report hb hderive huri

/-- A command line with right arguments asks for help, and is answered with it, or it stands for a
request that describes a builder. In that case it ends as promised only if the derivation does not
escape and all that is shown can be read, and it does so then if the styles that are named there can
be looked up. -/
theorem help_or_endsAsPromised {arguments : List String} (helpLines : Topic → List (List Char))
    (h : ∀ e, run arguments helpLines ≠ .error (.usage e)) :
    (∃ topic, AsksForHelp arguments topic ∧
        run arguments helpLines = .ok ⟨⟨0, helpLines topic⟩, []⟩) ∨
      ∃ r b, StandsFor arguments r ∧ r.builder = .ok b ∧
        (EndsAsPromised b (run arguments helpLines) →
          ¬Escapes (resulting b) ∧ ∀ s, ShowsMarkup b s → Readable s) ∧
        ((¬Escapes (resulting b) ∧ ∀ s, ShowsMarkup b s → Readable s ∧ HasStyles s) →
          EndsAsPromised b (run arguments helpLines)) := by
  -- The theorem about a request with a builder, at what the command line stands for.
  obtain ⟨topic, htopic⟩ | ⟨r, b, hr, hb⟩ := help_or_standsFor h
  · exact .inl ⟨topic, htopic, run_of_asksForHelp htopic⟩
  · refine .inr ⟨r, b, hr, hb, ?_⟩
    rw [run_of_standsFor hr, endsAsPromised_of_builder hb]
    constructor
    · rintro ⟨hescapes, hshown⟩
      exact ⟨hescapes, fun s hs => (hshown s hs).readable⟩
    · rintro ⟨hescapes, hshown⟩
      exact ⟨hescapes, fun s hs => ⟨(hshown s hs).1, (hshown s hs).2⟩⟩

end

/-- A command line that stands for a request asks for no help. -/
theorem StandsFor.not_asksForHelp {arguments : List String} (h : StandsFor arguments r)
    (topic : Topic) : ¬AsksForHelp arguments topic := by
  obtain ⟨settings, hsettings, _⟩ := h
  intro hasks
  rw [AsksForHelp, hsettings] at hasks
  cases hasks

/-- A command line stands for one request. -/
theorem StandsFor.unique {arguments : List String} {r' : Request} (h : StandsFor arguments r)
    (h' : StandsFor arguments r') : r = r' := by
  obtain ⟨settings, hsettings, rfl⟩ := h
  obtain ⟨settings', hsettings', rfl⟩ := h'
  rw [hsettings] at hsettings'
  cases hsettings'
  rfl

/-- Where a command line stands for a request that describes a builder, its arguments are right. -/
theorem StandsFor.ne_usage [Markup.Evaluation] {arguments : List String}
    {helpLines : Topic → List (List Char)} (h : StandsFor arguments r) (hb : r.builder = .ok b)
    (e : UsageError) : run arguments helpLines ≠ .error (.usage e) := by
  rw [run_of_standsFor h, Request.perform, hb]
  dsimp only
  split <;> exact fun heq => nomatch heq

/-! ### A single header -/

/-- The builder with one header. -/
def builderOf (name value : String) : Builder :=
  { headers := [.header (.text name) (.text value)] }

/-- A request for one header describes the builder with it. -/
theorem builder_of_header (line : String) (h : Header) (hline : Header.ofLine line = .ok h) :
    (Request.ofSettings [.value .header line]).builder = .ok (builderOf h.name h.value) := by
  have hlines : (Request.ofSettings [.value .header line]).headerLines = .ok [h] := by
    show [line].mapM _ = _
    rw [List.mapM_cons, hline]
    rfl
  rw [Request.builder, hlines]
  rfl

/-- Nothing stands in the way of a report with one header. -/
theorem derive_builderOf (name value : String) :
    derive (resulting (builderOf name value)) = .ok none ∧
      (∃ u, (resulting (builderOf name value)).uri = .ok u) ∧
      (resulting (builderOf name value)).readText? .tlsVersion = .ok none := by
  -- A header does not take part in the derivation, so this is about an empty builder.
  have hderive : (derive (resulting {})).toOption = some none := by decide +kernel
  have huri : (resulting {}).uri.isOk = true := by decide +kernel
  have hversion : (resulting {}).readText? .tlsVersion = .ok none := by decide +kernel
  refine ⟨toOption_eq_some.1 hderive, ?_, hversion⟩
  show ∃ u, (resulting {}).uri = .ok u
  cases h : (resulting {}).uri with
  | ok u => exact ⟨u, rfl⟩
  | error e =>
    rw [h] at huri
    cases huri

/-- A value in brackets that are none of a tag is shown as promised. -/
theorem help_or_endsAsPromised_numbered : ∃ r, StandsFor ["show", "-H", "X: [1]"] r ∧
    r.builder = .ok (builderOf "X" "[1]") ∧
      EndsAsPromised (builderOf "X" "[1]") (run ["show", "-H", "X: [1]"]) := by
  have hstands : StandsFor ["show", "-H", "X: [1]"] (.ofSettings [.value .header "X: [1]"]) :=
    ⟨_, by decide +kernel, rfl⟩
  have hbuilder := builder_of_header "X: [1]" ⟨"X", "[1]"⟩ (by decide +kernel)
  refine ⟨_, hstands, hbuilder, ?_⟩
  -- The command line does not ask for help, so the second half of the theorem applies.
  obtain ⟨topic, hasks, _⟩ | ⟨r, b, hr, hb, _, hends⟩ :=
    help_or_endsAsPromised (fun _ => []) (hstands.ne_usage hbuilder)
  · exact absurd hasks (hstands.not_asksForHelp topic)
  · rw [hr.unique hstands, hbuilder] at hb
    cases hb
    obtain ⟨hderive, ⟨u, huri⟩, hversion⟩ := derive_builderOf "X" "[1]"
    have hdrawn : ∀ s ∈ ["X", "[1]"], Readable s ∧ HasStyles s := by
      have hliteral : ∀ s ∈ ["X", "[1]"], Markup.plain s.toList = .ok s.toList := by
        decide +kernel
      exact fun s hs => ⟨⟨_, hliteral s hs⟩,
        Markup.lookUpStyles_of_isLiteral (Markup.plain_eq_self_iff.1 (hliteral s hs))⟩
    have htexts : (builderOf "X" "[1]").headers =
        [("X", "[1]")].map fun t => .header (.text t.1) (.text t.2) := rfl
    refine hends ⟨?_, (forall_showsMarkup_iff hderive huri hversion htexts).2
      ⟨⟨(fun _ hc => nomatch hc), (fun _ hs => nomatch hs)⟩, ?_⟩⟩
    · rw [← ProxyConfiguration.escaped_derive, hderive]
      exact ProxyConfiguration.not_escaped_ok none
    · exact List.forall_mem_singleton.2
        ⟨hdrawn "X" (by simp), hdrawn "[1]" (by simp)⟩

/-- A header with a closing tag as its value cannot be read, and the command does not end as
promised. -/
theorem not_endsAsPromised_closing_tag : ∃ r, StandsFor ["show", "--header", "X: [/a]"] r ∧
    r.builder = .ok (builderOf "X" "[/a]") ∧
      (∀ e, run ["show", "--header", "X: [/a]"] ≠ .error (.usage e)) ∧
      ¬EndsAsPromised (builderOf "X" "[/a]") (run ["show", "--header", "X: [/a]"]) := by
  have hstands : StandsFor ["show", "--header", "X: [/a]"]
      (.ofSettings [.value .header "X: [/a]"]) := ⟨_, by decide +kernel, rfl⟩
  have hbuilder := builder_of_header "X: [/a]" ⟨"X", "[/a]"⟩ (by decide +kernel)
  refine ⟨_, hstands, hbuilder, hstands.ne_usage hbuilder, ?_⟩
  rw [run_of_standsFor hstands, endsAsPromised_of_builder hbuilder]
  rintro ⟨_, hshown⟩
  obtain ⟨hderive, ⟨u, huri⟩, _⟩ := derive_builderOf "X" "[/a]"
  obtain ⟨⟨t, ht⟩, _⟩ := hshown "[/a]" (.value hderive huri (List.mem_singleton_self _))
  -- whatever the tag names, no tag is open
  have htokens : Markup.tokens "[/a]".toList =
      [.text [], .text [], .tag "/a".toList 0, .text []] := by decide +kernel
  have hname : (Markup.Tag.ofInner "/a".toList).name = ['/', 'a'] := by decide +kernel
  rw [Markup.plain, htokens, Markup.render_text, Markup.render_text] at ht
  obtain ⟨_, ht, _⟩ := map_eq_ok.1 ht
  obtain ⟨_, ht, _⟩ := map_eq_ok.1 ht
  obtain ⟨opened, hopened, _⟩ := Markup.render_tag_eq_ok ht
  exact Markup.applyTag_nil_close hname opened 0 hopened

end Egress.Command
