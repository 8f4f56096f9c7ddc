import Egress.Proofs.Value.Plain
import Egress.Report.Basic

/-!
# What sheets show

A sheet is drawn when each of its cells shows a text and the styles in it can be looked up. The
cells of a literal text always do; those of a text with markup do when the markup can be read.

## Key results

- `Report.Sheet.exists_lines`: the sheets that are drawn
- `Report.overview_of_texts`, `Report.headerSheet_of_texts`: the sheets of a report
-/

namespace Egress.Report

open Layout (Panel Table Row)

/-! ### Drawing -/

/-- The styles of a sheet can be looked up when those of each cell can, on a page with room. -/
theorem Sheet.lookUpStyles_eq_ok {s : Sheet} {width : Nat} (hwidth : leastWidth ≤ width) :
    s.lookUpStyles width = .ok () ↔
      ∀ r ∈ s.rows, r.1.lookUpStyles = .ok () ∧ r.2.lookUpStyles = .ok () := by
  -- The page is wide enough, so only the styles of the cells count.
  rw [Sheet.lookUpStyles, if_neg (Nat.not_lt.2 hwidth), forM_eq_ok]
  refine forall₂_congr fun r _ => ?_
  constructor
  · intro h
    obtain ⟨_, hleft, hright⟩ := bind_eq_ok.1 h
    exact ⟨hleft, hright⟩
  · rintro ⟨hleft, hright⟩
    exact bind_eq_ok.2 ⟨(), hleft, hright⟩

section

variable [Markup.Evaluation]

/-- A cell can be drawn: it shows a text, and its styles can be looked up. -/
structure Cell.IsDrawable (c : Cell) : Prop where
  shown : ∃ t, c.shown = .ok t
  styles : c.lookUpStyles = .ok ()

/-- What the rows of a sheet show, on a page with room for it. -/
theorem Sheet.shown_eq {s : Sheet} {width : Nat} (hwidth : leastWidth ≤ width) :
    s.shown width = (do
      let lefts ← s.rows.mapM fun r => r.1.shown
      let rights ← s.rows.mapM fun r => r.2.shown
      return List.zipWith Row.mk lefts rights) := if_neg (Nat.not_lt.2 hwidth)

/-- A sheet is drawn when its cells show texts and its styles can be looked up. -/
theorem Sheet.lines_eq_ok {s : Sheet} {width : Nat} {lines : List (List Char)} :
    s.lines width = .ok lines ↔ ∃ rows, s.shown width = .ok rows ∧
      s.lookUpStyles width = .ok () ∧
      lines = (Panel.mk s.title.toList ⟨⟨s.head.1.toList, s.head.2.toList⟩, rows⟩).lines width := by
  constructor
  -- First the texts are made, then the styles are looked up, then the panel is drawn.
  · intro h
    obtain ⟨rows, hrows, h⟩ := bind_eq_ok.1 h
    obtain ⟨_, hstyles, h⟩ := bind_eq_ok.1 h
    cases h
    exact ⟨rows, hrows, hstyles, rfl⟩
  · rintro ⟨rows, hrows, hstyles, rfl⟩
    exact bind_eq_ok.2 ⟨rows, hrows, bind_eq_ok.2 ⟨(), hstyles, rfl⟩⟩

/-- The cells of a sheet show texts when each of them does. -/
theorem Sheet.exists_shown {s : Sheet} {width : Nat} (hwidth : leastWidth ≤ width) :
    (∃ rows, s.shown width = .ok rows) ↔
      ∀ r ∈ s.rows, (∃ t, r.1.shown = .ok t) ∧ ∃ t, r.2.shown = .ok t := by
  -- The two columns are shown one after the other.
  have hcells : (∀ r ∈ s.rows, (∃ t, r.1.shown = .ok t) ∧ ∃ t, r.2.shown = .ok t) ↔
      (∃ lefts, s.rows.mapM (fun r => r.1.shown) = .ok lefts) ∧
        ∃ rights, s.rows.mapM (fun r => r.2.shown) = .ok rights := by
    rw [exists_mapM_eq_ok, exists_mapM_eq_ok]
    exact ⟨fun h => ⟨fun r hr => (h r hr).1, fun r hr => (h r hr).2⟩,
      fun h r hr => ⟨h.1 r hr, h.2 r hr⟩⟩
  rw [hcells, Sheet.shown_eq hwidth]
  constructor
  · rintro ⟨rows, h⟩
    obtain ⟨lefts, hlefts, h⟩ := bind_eq_ok.1 h
    obtain ⟨rights, hrights, _⟩ := bind_eq_ok.1 h
    exact ⟨⟨lefts, hlefts⟩, rights, hrights⟩
  · rintro ⟨⟨lefts, hlefts⟩, rights, hrights⟩
    exact ⟨_, bind_eq_ok.2 ⟨lefts, hlefts, bind_eq_ok.2 ⟨rights, hrights, rfl⟩⟩⟩

/-- A sheet is drawn when each of its cells can be. -/
theorem Sheet.exists_lines {s : Sheet} {width : Nat} (hwidth : leastWidth ≤ width) :
    (∃ lines, s.lines width = .ok lines) ↔ ∀ r ∈ s.rows, r.1.IsDrawable ∧ r.2.IsDrawable := by
  -- Lines are drawn from rows that can be shown, with styles that can be looked up.
  have hparts : (∃ lines, s.lines width = .ok lines) ↔
      (∃ rows, s.shown width = .ok rows) ∧ s.lookUpStyles width = .ok () := by
    simp only [Sheet.lines_eq_ok]
    exact ⟨fun ⟨_, rows, hrows, hstyles, _⟩ => ⟨⟨rows, hrows⟩, hstyles⟩,
      fun ⟨⟨rows, hrows⟩, hstyles⟩ => ⟨_, rows, hrows, hstyles, rfl⟩⟩
  rw [hparts, Sheet.exists_shown hwidth, Sheet.lookUpStyles_eq_ok hwidth]
  constructor
  · rintro ⟨hshown, hstyles⟩ r hr
    exact ⟨⟨(hshown r hr).1, (hstyles r hr).1⟩, ⟨(hshown r hr).2, (hstyles r hr).2⟩⟩
  · intro h
    exact ⟨fun r hr => ⟨(h r hr).1.shown, (h r hr).2.shown⟩,
      fun r hr => ⟨(h r hr).1.styles, (h r hr).2.styles⟩⟩

/-- A sheet is drawn as a panel with its title and as many rows. -/
theorem Sheet.panel_of_lines {s : Sheet} {width : Nat} {lines : List (List Char)}
    (hwidth : leastWidth ≤ width) (h : s.lines width = .ok lines) :
    ∃ table : Table, table.rows.length = s.rows.length ∧
      lines = (Panel.mk s.title.toList table).lines width := by
  obtain ⟨rows, hrows, _, rfl⟩ := Sheet.lines_eq_ok.1 h
  rw [Sheet.shown_eq hwidth] at hrows
  obtain ⟨lefts, hlefts, hrows⟩ := bind_eq_ok.1 hrows
  obtain ⟨rights, hrights, hrows⟩ := bind_eq_ok.1 hrows
  cases hrows
  refine ⟨_, ?_, rfl⟩
  -- The columns are as long as the rows are many.
  have hleft := congrArg List.length (map_eq_of_mapM_ok hlefts)
  have hright := congrArg List.length (map_eq_of_mapM_ok hrights)
  rw [List.length_map, List.length_map] at hleft hright
  rw [List.length_zipWith, ← hleft, ← hright, Nat.min_self]

/-- A sheet that is given is drawn when its lines are. -/
theorem drawn_eq_ok {width : Nat} {s : Except ReportError Sheet} {lines : List (List Char)} :
    drawn width s = .ok lines ↔ ∃ sheet, s = .ok sheet ∧ sheet.lines width = .ok lines := by
  cases s with
  | error e => simp [drawn]
  | ok sheet =>
    rw [drawn]
    cases h : sheet.lines width with
    | error e => simp [h]
    | ok lines => simp [h]

/-- Where a sheet that is given is not drawn, its markup cannot be read. -/
theorem drawn_eq_error {width : Nat} {sheet : Sheet} {e : ReportError}
    (h : drawn width (.ok sheet) = .error e) : ∃ m, e = .markup m := by
  rw [drawn] at h
  cases hlines : sheet.lines width with
  | error m =>
    rw [hlines] at h
    cases h
    exact ⟨m, rfl⟩
  | ok lines =>
    rw [hlines] at h
    cases h

end

/-! ### Sheets of reports -/

/-- The text for a TLS version, which may be absent or empty. -/
def versionText (version : Option String) : String :=
  if version.getD "" = "" then absent else version.getD ""

/-- The text for the address of a proxy, which may be absent. -/
def proxyText (proxy : Option ProxyConfiguration) : String := proxy.elim absent fun c => c.uri.text

/-- The sheet with an address, a proxy, a TLS version and a number of providers. -/
def resolvedSheet (address : String) (proxy : Option ProxyConfiguration) (version : Option String)
    (providers : Nat) : Sheet :=
  ⟨"Destination", ("Attribute", "Value"),
    [(.markup "URI", .literal address),
      (.markup "Proxy type", .markup ProxyType.internet.text),
      (.markup "Proxy", .markup (proxyText proxy)),
      (.markup "TLS version", .markup (versionText version)),
      (.markup "Authentication", .markup AuthenticationType.noAuthentication.text),
      (.markup "Header providers", .markup (toString providers))]⟩

/-- The sheet of a destination shows its address as it was configured. -/
theorem overview_of_texts {d : Destination} {u : Url} {raw : String} {version : Option String}
    (huri : d.uri = .ok u)
    (hraw : (d.properties.get? (.text PropertyKey.url.name)).bind Value.text? = some raw)
    (hversion : d.tlsVersion = .ok version) :
    overview d = .ok (resolvedSheet raw d.proxy version d.providers.length) := by
  -- The address is accepted and shown as it was configured.
  have haddress : address d = .ok raw := by
    rw [address, huri]
    simp only [hraw]
  -- A version that can be read is shown by its text.
  have hshown : tlsVersion d = .ok (versionText version) := by
    rw [tlsVersion, hversion, versionText]
    cases version <;> rfl
  exact bind_eq_ok.2 ⟨raw, haddress, bind_eq_ok.2 ⟨_, hshown, rfl⟩⟩

/-- A destination whose address is not accepted has no sheet. -/
theorem overview_of_error {d : Destination} {e : DestinationError} (h : d.uri = .error e) :
    overview d = .error (.destination e) := by
  rw [overview, address, h]
  rfl

/-- A value with a text is shown as that text, read as markup. -/
theorem cellOf_of_text? {v : Value} {s : String} (h : v.text? = some s) :
    cellOf v = .ok (.markup s) := by
  cases v <;> cases h <;> rfl

/-- A header of texts is a row of texts with markup. -/
theorem headerRow_of_texts {h : Value} {t : String × String} (ht : h.headerTexts? = some t) :
    headerRow h = .ok (.markup t.1, .markup t.2) := by
  cases h with
  | header name value =>
    obtain ⟨n, hn, ht⟩ := Option.bind_eq_some_iff.1 ht
    obtain ⟨v, hv, ht⟩ := Option.map_eq_some_iff.1 ht
    cases ht
    rw [headerRow, cellOf_of_text? hn, cellOf_of_text? hv]
    rfl
  | _ => cases ht

/-- The sheet of headers of texts. -/
def textSheet (texts : List (String × String)) : Sheet :=
  ⟨"Headers", ("Name", "Value"), texts.map fun t => (.markup t.1, .markup t.2)⟩

/-- Headers with texts are shown as the sheet of these. -/
theorem headerSheet_of_texts {headers : List Value} {texts : List (String × String)}
    (h : headers.mapM Value.headerTexts? = some texts) :
    headerSheet headers = .ok (textSheet texts) := by
  have hrows : headers.mapM headerRow = .ok (texts.map fun t => (.markup t.1, .markup t.2)) := by
    -- Each header is a row of its own.
    induction headers generalizing texts with
    | nil => cases h; rfl
    | cons header rest ih =>
      rw [List.mapM_cons] at h
      obtain ⟨t, ht, h⟩ := Option.bind_eq_some_iff.1 h
      obtain ⟨ts, hts, h⟩ := Option.bind_eq_some_iff.1 h
      cases h
      rw [List.mapM_cons, headerRow_of_texts ht, ih hts]
      rfl
  exact bind_eq_ok.2 ⟨_, hrows, rfl⟩

end Egress.Report
