import Egress.Markup.Parameters
import Egress.Proofs.Number.IntText
import Egress.Proofs.Report.ErrorLine
import Egress.Proofs.Report.Literal

/-!
# What is printed as it is written

A report shows the address of a destination, its proxy, its TLS version and its headers character
by character, on a page with room for them, if and only if there is nothing to read in those that
are read as markup; the address is never read. The same holds for the text of an error, which may
have no tabs either.

## Key results

- `IsReported`, `AreLiteral`: the reports, and the condition on what is shown
- `areLiteral_of_isReported`, `isReported_of_areLiteral`: the two directions for destinations
- `printed_as_written_iff`: destinations and errors
-/

namespace Egress.Report

open Egress.Markup Egress.Text
open Layout (IsPrintableText)

variable {d : Destination} {width : Nat}

/-! ### Destinations -/

/-- What a destination holds as texts. -/
structure Contents where
  -- The address as it was configured.
  address : String
  version : Option String
  -- Names and values.
  headers : List (String × String)

variable {t : Contents}

/-- The contents of a destination whose address is accepted. -/
structure IsContents (d : Destination) (t : Contents) : Prop where
  accepted : ∃ u, d.uri = .ok u
  address : (d.properties.get? (.text PropertyKey.url.name)).bind Value.text? = some t.address
  version : d.tlsVersion = .ok t.version
  headers : d.headers.mapM Value.headerTexts? = some t.headers

/-- Contents of printable ASCII. -/
structure Contents.ArePrintable (t : Contents) : Prop where
  address : IsPrintableText t.address.toList
  version : ∀ v, t.version = some v → IsPrintableText v.toList
  headers : Report.ArePrintable t.headers

/-- What the upper panel shows. -/
def upperRows (d : Destination) (t : Contents) : List (String × String) :=
  [("URI", t.address), ("Proxy type", ProxyType.internet.text), ("Proxy", proxyText d.proxy),
    ("TLS version", versionText t.version),
    ("Authentication", AuthenticationType.noAuthentication.text),
    ("Header providers", toString d.providers.length)]

/-- A page with room for both panels. -/
structure HasRoom (width : Nat) (d : Destination) (t : Contents) : Prop where
  upper : roomFor (("Attribute", "Value") :: upperRows d t) ≤ width
  lower : roomFor (("Name", "Value") :: t.headers) ≤ width

/-- A report that shows everything character by character. -/
def IsReported [Evaluation] (width : Nat) (d : Destination) (t : Contents) : Prop :=
  ∃ upper lower, d.report width = .ok (upper ++ lower) ∧ ShowsRows (upperRows d t) upper ∧
    ShowsRows t.headers lower

/-- There is nothing to read in what is read as markup. -/
structure AreLiteral (d : Destination) (t : Contents) : Prop where
  proxy : ∀ c, d.proxy = some c → IsLiteral c.uri.text.toList
  version : ∀ v, t.version = some v → IsLiteral v.toList
  headers : ∀ h ∈ t.headers, IsLiteral h.1.toList ∧ IsLiteral h.2.toList

/-- The sheet of the upper panel. -/
def upperSheet (d : Destination) (t : Contents) : Sheet :=
  resolvedSheet t.address d.proxy t.version d.providers.length

/-- A report consists of both panels. -/
theorem report_eq_ok [Evaluation] (h : IsContents d t) {lines : List (List Char)} :
    d.report width = .ok lines ↔ ∃ upper lower, (upperSheet d t).lines width = .ok upper ∧
      (textSheet t.headers).lines width = .ok lower ∧ lines = upper ++ lower := by
  obtain ⟨u, hu⟩ := h.accepted
  rw [Destination.report, overview_of_texts hu h.address h.version, headers,
    headerSheet_of_texts h.headers]
  -- Sheet by sheet, from the lines of the report and back.
  constructor
  · intro hreport
    obtain ⟨upper, hupper, hreport⟩ := bind_eq_ok.1 hreport
    obtain ⟨lower, hlower, hreport⟩ := bind_eq_ok.1 hreport
    obtain ⟨_, hsheet, hupper⟩ := drawn_eq_ok.1 hupper
    obtain ⟨_, hsheet', hlower⟩ := drawn_eq_ok.1 hlower
    cases hsheet
    cases hsheet'
    cases hreport
    exact ⟨upper, lower, hupper, hlower, rfl⟩
  · rintro ⟨upper, lower, hupper, hlower, rfl⟩
    exact bind_eq_ok.2 ⟨upper, drawn_eq_ok.2 ⟨_, rfl, hupper⟩, bind_eq_ok.2
      ⟨lower, drawn_eq_ok.2 ⟨_, rfl, hlower⟩, rfl⟩⟩

/-- The texts of the upper sheet, row by row. -/
theorem texts_upperSheet : (upperSheet d t).texts = upperRows d t := rfl

/-- The texts of a sheet of texts. -/
theorem texts_textSheet (texts : List (String × String)) : (textSheet texts).texts = texts := by
  rw [Sheet.texts, textSheet, List.map_map]
  exact List.map_id texts

/-- The texts that are the same in every report. -/
def fixedTexts : List String :=
  ["Destination", "Attribute", "Value", "Headers", "Name", "URI", "Proxy type", "Proxy",
    "TLS version", "Authentication", "Header providers", ProxyType.internet.text,
    AuthenticationType.noAuthentication.text, absent]

/-- There is nothing to read in what is the same in every report. -/
theorem fixedTexts_plain :
    ∀ s ∈ fixedTexts, IsPrintableText s.toList ∧ marks s.toList = 0 := by
  decide +kernel

/-- The sign for what is absent is literal. -/
theorem isLiteral_absent : IsLiteral absent.toList :=
  isLiteral_of_marks_eq_zero (fixedTexts_plain absent (by simp [fixedTexts])).2

/-- The text of a TLS version is literal if the version is. -/
theorem isLiteral_versionText {version : Option String} :
    IsLiteral (versionText version).toList ↔ ∀ v, version = some v → IsLiteral v.toList := by
  have hempty : IsLiteral "".toList := isLiteral_of_marks_eq_zero rfl
  cases version with
  | none => exact iff_of_true isLiteral_absent (by simp)
  | some v =>
    rw [versionText, Option.getD_some]
    split
    -- An empty version is shown like a missing one, and the empty text is literal.
    · rename_i hv
      subst hv
      exact iff_of_true isLiteral_absent fun w hw => Option.some.inj hw ▸ hempty
    · exact ⟨fun h w hw => Option.some.inj hw ▸ h, fun h => h v rfl⟩

/-- The row of the proxy is literal when its address is. -/
theorem isLiteral_proxyText {proxy : Option ProxyConfiguration} :
    IsLiteral (proxyText proxy).toList ↔ ∀ c, proxy = some c → IsLiteral c.uri.text.toList := by
  cases proxy with
  | none => exact iff_of_true isLiteral_absent (by simp)
  | some c => exact ⟨fun h w hw => Option.some.inj hw ▸ h, fun h => h c rfl⟩

/-- A number is written in digits, none of which is a mark. -/
theorem printable_toString (n : Nat) :
    IsPrintableText (toString n).toList ∧ marks (toString n).toList = 0 := by
  have hdigit : ∀ c ∈ (toString n).toList, 48 ≤ c.toNat ∧ c.toNat ≤ 57 := fun c hc =>
    Number.isDigit_iff.1 (Number.isDigit_of_mem_repr hc)
  refine ⟨fun c hc => ?_, marks_eq_zero.2 fun c hc => ?_⟩
  · have := hdigit c hc
    exact ⟨by omega, by omega⟩
  · have := hdigit c hc
    -- The marks are below or above the digits.
    have hmarks : ['[', '\\', ':', '\t'].all (fun m => m.toNat < 48 || 57 < m.toNat) = true := by
      decide
    rw [isMark, isControl_of_le (by omega), Bool.or_false, ← Bool.not_eq_true,
      List.contains_iff_mem]
    intro hmem
    have := List.all_eq_true.1 hmarks c hmem
    simp only [Bool.or_eq_true, decide_eq_true_eq] at this
    omega

/-- The upper panel is literal if the address of the proxy and the TLS version are. -/
theorem isLiteral_upperSheet (haddress : IsPrintableText t.address.toList) :
    (upperSheet d t).IsLiteral ↔ (∀ c, d.proxy = some c → IsLiteral c.uri.text.toList) ∧
      ∀ v, t.version = some v → IsLiteral v.toList := by
  have hcontrol : ∀ c ∈ t.address.toList, isControl c = false := fun c hc =>
    isControl_of_le (haddress c hc).1
  -- All other texts of the panel are fixed, and were checked once.
  have hfixed : ∀ s ∈ fixedTexts, IsLiteral s.toList := fun s hs =>
    isLiteral_of_marks_eq_zero (fixedTexts_plain s hs).2
  simp only [fixedTexts, List.forall_mem_cons] at hfixed
  obtain ⟨-, -, -, -, -, huri, htype, hproxy, htls, hauth, hcount, hinternet, hnone, -⟩ := hfixed
  rw [← isLiteral_proxyText, ← isLiteral_versionText]
  simp only [Sheet.IsLiteral, upperSheet, resolvedSheet, List.forall_mem_cons]
  constructor
  · rintro ⟨-, -, ⟨-, h⟩, ⟨-, h'⟩, -⟩
    exact ⟨h, h'⟩
  · rintro ⟨h, h'⟩
    exact ⟨⟨huri, hcontrol⟩, ⟨htype, hinternet⟩, ⟨hproxy, h⟩, ⟨htls, h'⟩, ⟨hauth, hnone⟩,
      ⟨hcount, isLiteral_of_marks_eq_zero (printable_toString _).2⟩, List.forall_mem_nil _⟩

/-- What the upper panel shows is printable if the address of the proxy is. -/
theorem arePrintable_upperRows (h : t.ArePrintable)
    (hproxy : ∀ c, d.proxy = some c → IsPrintableText c.uri.text.toList) :
    ArePrintable (upperRows d t) := by
  have hfixed : ∀ s ∈ fixedTexts, IsPrintableText s.toList := fun s hs => (fixedTexts_plain s hs).1
  simp only [fixedTexts, List.forall_mem_cons] at hfixed
  obtain ⟨-, -, -, -, -, hu, ht, hp, hv, ha, hc, hinternet, hnone, habsent, -⟩ := hfixed
  -- What a row shows is a fixed text or one of the destination.
  have hproxy : IsPrintableText (proxyText d.proxy).toList := by
    cases hd : d.proxy with
    | none => exact habsent
    | some c => exact hproxy c hd
  have hversion : IsPrintableText (versionText t.version).toList := by
    cases hv : t.version with
    | none => exact habsent
    | some v =>
      rw [versionText, Option.getD_some]
      split
      · exact habsent
      · exact h.version v hv
  simp only [ArePrintable, upperRows, List.forall_mem_cons]
  exact ⟨⟨hu, h.address⟩, ⟨ht, hinternet⟩, ⟨hp, hproxy⟩, ⟨hv, hversion⟩, ⟨ha, hnone⟩,
    ⟨hc, (printable_toString _).1⟩, List.forall_mem_nil _⟩

/-- The lower panel is literal if the headers are. -/
theorem isLiteral_textSheet {texts : List (String × String)} : (textSheet texts).IsLiteral ↔
    ∀ h ∈ texts, IsLiteral h.1.toList ∧ IsLiteral h.2.toList := by
  rw [Sheet.IsLiteral, textSheet, List.forall_mem_map]
  rfl

section

variable [Evaluation]

/-- Where everything is shown as it is, there is nothing to read. -/
theorem areLiteral_of_isReported (hc : IsContents d t) (haddress : IsPrintableText t.address.toList)
    (hwidth : leastWidth ≤ width) (h : IsReported width d t) : AreLiteral d t := by
  obtain ⟨upper, lower, hreport, hupper, hlower⟩ := h
  obtain ⟨upper', lower', hupper', hlower', hlines⟩ := (report_eq_ok hc).1 hreport
  have hfixed : ∀ s ∈ fixedTexts, marks s.toList = 0 := fun s hs => (fixedTexts_plain s hs).2
  simp only [fixedTexts, List.forall_mem_cons] at hfixed
  obtain ⟨htitle, hattribute, hvalue, htitle', hname, -⟩ := hfixed
  -- Titles and column heads have no marks, so all marks come from the rows.
  have hhead : marks "Destination".toList + marks "Attribute".toList + marks "Value".toList =
      0 := by rw [htitle, hattribute, hvalue]
  have hhead' : marks "Headers".toList + marks "Name".toList + marks "Value".toList = 0 := by
    rw [htitle', hname, hvalue]
  have hu := Sheet.isLiteral_of_lines (s := upperSheet d t) hwidth hhead hupper'
  have hl := Sheet.isLiteral_of_lines (s := textSheet t.headers) hwidth hhead' hlower'
  rw [texts_upperSheet] at hu
  rw [texts_textSheet] at hl
  -- The lines of both panels together show all marks of the rows; no panel has more than its own
  -- rows, so neither has fewer.
  have hmarks : rowMarks (upperRows d t) + rowMarks t.headers ≤
      lineMarks upper' + lineMarks lower' := by
    rw [← lineMarks_append, ← hlines, lineMarks_append]
    exact Nat.add_le_add hupper.marks_le hlower.marks_le
  have hless := hu.1
  have hless' := hl.1
  obtain ⟨hproxy, hversion⟩ := (isLiteral_upperSheet haddress).1 (hu.2 (by omega))
  exact ⟨hproxy, hversion, isLiteral_textSheet.1 (hl.2 (by omega))⟩

/-- Where there is nothing to read, everything is shown as it is. -/
theorem isReported_of_areLiteral (hc : IsContents d t) (ht : t.ArePrintable)
    (hproxy : ∀ c, d.proxy = some c → IsPrintableText c.uri.text.toList)
    (hroom : HasRoom width d t) (h : AreLiteral d t) : IsReported width d t := by
  have hprintable : ∀ s ∈ fixedTexts, IsPrintableText s.toList := fun s hs =>
    (fixedTexts_plain s hs).1
  -- The heads are long enough for the titles.
  have hhead : 0 < "Attribute".toList.length ∧ 0 < "Value".toList.length ∧
      "Destination".toList.length ≤ "Attribute".toList.length + "Value".toList.length + 5 := by
    decide
  have hhead' : 0 < "Name".toList.length ∧ 0 < "Value".toList.length ∧
      "Headers".toList.length ≤ "Name".toList.length + "Value".toList.length + 5 := by
    decide
  simp only [fixedTexts, List.forall_mem_cons] at hprintable
  obtain ⟨htitle, hattribute, hvalue, htitle', hname, -⟩ := hprintable
  obtain ⟨upper, hupper, hrows⟩ := Sheet.showsRows_of_isLiteral
    ((isLiteral_upperSheet ht.address).2 ⟨h.proxy, h.version⟩)
    (List.forall_mem_cons.2 ⟨⟨hattribute, hvalue⟩, arePrintable_upperRows ht hproxy⟩)
    htitle hhead hroom.upper
  have hlowerRoom :
      roomFor ((textSheet t.headers).head :: (textSheet t.headers).texts) ≤ width := by
    rw [texts_textSheet]
    exact hroom.lower
  have hlowerPrintable :
      ArePrintable ((textSheet t.headers).head :: (textSheet t.headers).texts) := by
    rw [texts_textSheet]
    exact List.forall_mem_cons.2 ⟨⟨hname, hvalue⟩, ht.headers⟩
  obtain ⟨lower, hlower, hrows'⟩ := Sheet.showsRows_of_isLiteral
    (isLiteral_textSheet.2 h.headers) hlowerPrintable htitle' hhead' hlowerRoom
  rw [texts_textSheet] at hrows'
  exact ⟨upper, lower, (report_eq_ok hc).2 ⟨upper, lower, hupper, hlower, rfl⟩, hrows, hrows'⟩

/-- A report shows a destination character by character, on a page with room for it, only if there
is nothing to read in what is read as markup, and it does so then if the address of the proxy is
printable. An error is printed with its text if and only if there is nothing to read in it and it
has no tabs. -/
theorem printed_as_written_iff (hc : IsContents d t) (ht : t.ArePrintable)
    (hroom : HasRoom width d t) :
    (IsReported width d t → AreLiteral d t) ∧
      ((∀ c, d.proxy = some c → IsPrintableText c.uri.text.toList) →
        AreLiteral d t → IsReported width d t) ∧
      ∀ e : DestinationError, e.PrintsText ↔
        IsLiteral e.message.toList ∧ '\t' ∉ e.message.toList := by
  -- Room for the rows is room for the frame.
  have hwidth : leastWidth ≤ width := by
    have := hroom.upper
    rw [roomFor] at this
    rw [leastWidth]
    omega
  exact ⟨areLiteral_of_isReported hc ht.address hwidth,
    fun hproxy => isReported_of_areLiteral hc ht hproxy hroom,
    fun _ => DestinationError.printsText_iff⟩

end

/-- A destination with one header, behind a proxy at a host, and how that is configured. -/
def proxied (configured host value : String) : Destination :=
  ⟨⟨[(.text "URL", .text "http://h"), (.text "ProxyUri", .text configured)]⟩,
    [.header (.text "X") (.text value)], [], some ⟨⟨"http", "", host, none, "", none, none⟩, none⟩⟩

/-- The texts of such a destination. -/
def proxiedContents (value : String) : Contents := ⟨"http://h", none, [("X", value)]⟩

/-- What a proxied report shows is what its contents say. -/
theorem isContents_proxied (configured host value : String) :
    IsContents (proxied configured host value) (proxiedContents value) := by
  have haccepted : (proxied "" "" "").uri.isOk = true := by decide +kernel
  have haddress : ((proxied "" "" "").properties.get? (.text PropertyKey.url.name)).bind
      Value.text? = some "http://h" := by decide +kernel
  have hversion : (proxied "" "" "").tlsVersion = .ok none := by decide +kernel
  refine ⟨?_, haddress, hversion, rfl⟩
  -- The address is accepted, which a decision on the result shows.
  show ∃ u, (proxied "" "" "").uri = .ok u
  cases huri : (proxied "" "" "").uri with
  | ok u => exact ⟨u, rfl⟩
  | error e =>
    rw [huri] at haccepted
    cases haccepted

/-- The contents of a proxied report are printable when the value is. -/
theorem arePrintable_proxiedContents {value : String} (h : IsPrintableText value.toList) :
    (proxiedContents value).ArePrintable := by
  have haddress : IsPrintableText "http://h".toList := by
    decide +kernel
  have hname : IsPrintableText "X".toList := by
    decide +kernel
  exact ⟨haddress, (fun _ hv => nomatch hv), List.forall_mem_singleton.2 ⟨hname, h⟩⟩

/-- A header with a number in brackets, which is no tag, on a page of eighty cells. -/
theorem printed_as_written_iff_numbered :
    IsContents (proxied "http://p" "p" "[1]") (proxiedContents "[1]") ∧
      (proxiedContents "[1]").ArePrintable ∧
      HasRoom 80 (proxied "http://p" "p" "[1]") (proxiedContents "[1]") ∧
      IsReported 80 (proxied "http://p" "p" "[1]") (proxiedContents "[1]") := by
  -- Every hypothesis is checked on this destination.
  have hcontents := isContents_proxied "http://p" "p" "[1]"
  have hprintable : (proxiedContents "[1]").ArePrintable :=
    arePrintable_proxiedContents (by decide +kernel)
  have hroom : HasRoom 80 (proxied "http://p" "p" "[1]") (proxiedContents "[1]") :=
    ⟨by decide +kernel, by decide +kernel⟩
  have hproxy : ∀ c, (proxied "http://p" "p" "[1]").proxy = some c →
      IsPrintableText c.uri.text.toList ∧ IsLiteral c.uri.text.toList := by
    rintro _ ⟨⟩
    refine ⟨?_, plain_eq_self_iff.1 (by decide +kernel)⟩
    decide +kernel
  have hheader : IsLiteral "X".toList ∧ IsLiteral "[1]".toList :=
    ⟨plain_eq_self_iff.1 (by decide +kernel), plain_eq_self_iff.1 (by decide +kernel)⟩
  have hliteral : AreLiteral (proxied "http://p" "p" "[1]") (proxiedContents "[1]") :=
    ⟨fun c hc => (hproxy c hc).2, (fun _ hv => nomatch hv), List.forall_mem_singleton.2 hheader⟩
  exact ⟨hcontents, hprintable, hroom, (printed_as_written_iff hcontents hprintable hroom).2.1
    (fun c hc => (hproxy c hc).1) hliteral⟩

/-- The brackets of an IPv6 address that begins with a letter are read as a tag. -/
theorem not_isReported_letter :
    ProxyConfiguration.derive (proxied "http://[a::1]" "a::1" "v").properties =
        .ok (proxied "http://[a::1]" "a::1" "v").proxy ∧
      IsContents (proxied "http://[a::1]" "a::1" "v") (proxiedContents "v") ∧
      (proxiedContents "v").ArePrintable ∧
      HasRoom 80 (proxied "http://[a::1]" "a::1" "v") (proxiedContents "v") ∧
      ¬IsReported 80 (proxied "http://[a::1]" "a::1" "v") (proxiedContents "v") := by
  have hderive : (ProxyConfiguration.derive
      (proxied "http://[a::1]" "a::1" "v").properties).toOption =
        some (proxied "http://[a::1]" "a::1" "v").proxy := by decide +kernel
  have hcontents := isContents_proxied "http://[a::1]" "a::1" "v"
  have hprintable : (proxiedContents "v").ArePrintable :=
    arePrintable_proxiedContents (by decide +kernel)
  have hroom : HasRoom 80 (proxied "http://[a::1]" "a::1" "v") (proxiedContents "v") :=
    ⟨by decide +kernel, by decide +kernel⟩
  refine ⟨toOption_eq_some.1 hderive, hcontents, hprintable, hroom, fun h => ?_⟩
  -- If it were reported, the address of the proxy would be literal, but a tag begins in its
  -- brackets.
  have hliteral := (areLiteral_of_isReported hcontents hprintable.address (by decide) h).proxy _ rfl
  exact hliteral.noTag ⟨"http://".toList, 'a', "::1".toList, [], by decide +kernel, by decide, rfl⟩

end Egress.Report
