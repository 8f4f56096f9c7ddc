import Egress.Http.Exchange
import Egress.Proofs.Outcome
import Egress.Proofs.Text.Utf8
import Mathlib.Data.List.Forall2
import Mathlib.Data.List.TakeWhile

/-!
# What headers are written as

A header that a provider gives is written as a line: the bytes of its name and of its value, both of
which must be texts, in the encoding of the request. Here that is said of the bytes themselves. A
header is set exactly if it can be written in this way, and several headers are set one after the
other.

## Key results

- `Encoding.Spells`, `encode_eq_ok`: the bytes of a text
- `Writes`, `headerLine_eq_ok`: the line of a header
- `foldlM_setHeader`: setting headers is setting their lines
- `mapM_headerLine_eq_error`: the first header that cannot be written
-/

namespace Egress

open Egress.Http Egress.Text

/-! ### Texts -/

/-- What the bytes of a text are: in UTF-8 those of the standard, otherwise the codes of the
characters, which all must be in range. -/
def Http.Encoding.Spells (e : Encoding) (s : String) (data : List UInt8) : Prop :=
  match e with
  | .ascii => (∀ c ∈ s.toList, c.toNat < 128) ∧ data.map UInt8.toNat = s.toList.map Char.toNat
  | .utf8 => data = s.toUTF8.data.toList
  | .latin1 => data.map UInt8.toNat = s.toList.map Char.toNat

/-- The bytes of a text in UTF-8 are those of the standard. -/
theorem encodeUtf8_toList (s : String) : encodeUtf8 s.toList = s.toUTF8.data.toList := by
  rw [String.toUTF8_eq_toByteArray, ← String.ofList_toList (s := s), String.toByteArray_ofList,
    List.utf8Encode, List.data_toByteArray, String.toList_ofList]
  rfl

/-- Bytes are known by their codes. -/
theorem eq_of_map_toNat {data data' : List UInt8}
    (h : data.map UInt8.toNat = data'.map UInt8.toNat) : data = data' :=
  List.map_injective_iff.2 (fun _ _ => UInt8.toNat_inj.1) h

/-- The byte of an ASCII character is its code. -/
theorem encodeChar_of_ascii {c : Char} (h : c.toNat < 128) :
    encodeChar c = [UInt8.ofNat c.toNat] := by
  have hval : c.val.toNat < 128 := h
  have hsize : c.utf8Size = 1 := by
    rw [Char.utf8Size_eq_one_iff, UInt32.le_iff_toNat_le]
    show c.val.toNat ≤ 127
    omega
  rw [encodeChar, String.utf8EncodeChar_eq_singleton hsize]
  congr 1

/-- The bytes of an ASCII text are the codes of its characters. -/
theorem encodeUtf8_of_ascii {s : List Char} (h : ∀ c ∈ s, c.toNat < 128) :
    encodeUtf8 s = s.map fun c => UInt8.ofNat c.toNat := by
  induction s with
  | nil => rfl
  | cons c rest ih =>
    obtain ⟨hc, hrest⟩ := List.forall_mem_cons.1 h
    rw [encodeUtf8_cons, encodeChar_of_ascii hc, ih hrest]
    rfl

/-- The codes of characters that fit into a byte are the codes of their bytes. -/
theorem map_toNat_ofNat {s : List Char} (h : ∀ c ∈ s, c.toNat < 256) :
    (s.map fun c => UInt8.ofNat c.toNat).map UInt8.toNat = s.map Char.toNat := by
  rw [List.map_map]
  exact List.map_congr_left fun c hc => UInt8.toNat_ofNat_of_lt' (h c hc)

/-- Every character has to be there. -/
theorem requireAll_eq_ok {has : Char → Bool} {e : Char → Nat → Nat → LineError} {s : List Char}
    {u : Unit} : requireAll has e s = .ok u ↔ ∀ c ∈ s, has c = true := by
  rw [requireAll]
  split
  · rename_i hnone
    exact ⟨fun _ c hc => List.dropWhile_eq_nil_iff.1 hnone c hc, fun _ => rfl⟩
  · rename_i hsome
    refine ⟨nofun, fun hall => ?_⟩
    rw [List.dropWhile_eq_nil_iff.2 hall] at hsome
    cases hsome

/-- A text has exactly the bytes that it is encoded to. -/
theorem encode_eq_ok {e : Encoding} {s : String} {data : List UInt8} :
    e.encode s.toList = .ok data ↔ e.Spells s data := by
  cases e with
  | ascii =>
    simp only [Encoding.encode, Encoding.Spells, map_eq_ok, requireAll_eq_ok, decide_eq_true_eq]
    constructor
    · rintro ⟨_, hall, rfl⟩
      rw [encodeUtf8_of_ascii hall]
      exact ⟨hall, map_toNat_ofNat fun c hc => Nat.lt_trans (hall c hc) (by decide)⟩
    · rintro ⟨hall, hcodes⟩
      refine ⟨(), hall, eq_of_map_toNat ?_⟩
      rw [encodeUtf8_of_ascii hall, hcodes]
      exact map_toNat_ofNat fun c hc => Nat.lt_trans (hall c hc) (by decide)
  | utf8 =>
    rw [Encoding.encode, Encoding.Spells, encodeUtf8_toList, Except.ok.injEq]
    exact eq_comm
  | latin1 =>
    simp only [Encoding.encode, Encoding.Spells, map_eq_ok, requireAll_eq_ok, decide_eq_true_eq]
    constructor
    · rintro ⟨_, hall, rfl⟩
      exact map_toNat_ofNat hall
    · intro hcodes
      -- a code that is the code of a byte is in range
      have hall : ∀ c ∈ s.toList, c.toNat < 256 := by
        intro c hc
        have hmem : c.toNat ∈ data.map UInt8.toNat := hcodes ▸ List.mem_map_of_mem hc
        obtain ⟨b, _, hb⟩ := List.mem_map.1 hmem
        rw [← hb]
        exact b.toNat_lt
      exact ⟨(), hall, eq_of_map_toNat ((map_toNat_ofNat hall).trans hcodes.symm)⟩

/-! ### Headers -/

/-- The line that a header is written as. -/
inductive Writes (e : Encoding) : Value → Line → Prop where
  | header {name value : Value} {n v : String} {l : Line} (hname : name.text? = some n)
    (hvalue : value.text? = some v) (names : e.Spells n l.name) (values : e.Spells v l.value) :
    Writes e (.header name value) l

/-- The line of a header that a provider gives. -/
def headerLine (e : Encoding) (header : Value) : Except LineError Line := do
  let (name, value) ← headerParts "value" header
  Line.ofTexts e name value

/-- A value is written as the bytes that its text is spelled by. -/
theorem textBytes_eq_ok {e : Encoding} {v : Value} {data : List UInt8} :
    textBytes e v = .ok data ↔ ∃ s, v.text? = some s ∧ e.Spells s data := by
  rw [textBytes]
  cases v.text? with
  | none => simp
  | some s => simp [encode_eq_ok]

/-- A header has exactly the line that it is written as. -/
theorem headerLine_eq_ok {e : Encoding} {header : Value} {l : Line} :
    headerLine e header = .ok l ↔ Writes e header l := by
  constructor
  · intro h
    -- The parts of the header and the bytes of each, as they were computed.
    obtain ⟨⟨name, value⟩, hparts, h⟩ := bind_eq_ok.1 h
    obtain ⟨n, hn, h⟩ := bind_eq_ok.1 h
    obtain ⟨v, hv, h⟩ := bind_eq_ok.1 h
    cases h
    obtain ⟨_, hname, names⟩ := textBytes_eq_ok.1 hn
    obtain ⟨_, hvalue, values⟩ := textBytes_eq_ok.1 hv
    cases header <;> cases hparts
    exact .header hname hvalue names values
  · rintro ⟨hname, hvalue, names, values⟩
    have hv := textBytes_eq_ok.2 ⟨_, hvalue, values⟩
    have hn := textBytes_eq_ok.2 ⟨_, hname, names⟩
    exact bind_eq_ok.2 ⟨_, hn, bind_eq_ok.2 ⟨_, hv, rfl⟩⟩

/-- A header that fails to be written has no line. -/
theorem not_writes {e : Encoding} {header : Value} {f : LineError}
    (h : headerLine e header = .error f) (l : Line) : ¬Writes e header l := by
  intro hwrites
  cases h.symm.trans (headerLine_eq_ok.2 hwrites)

/-- The lines that headers are written as, one each. -/
theorem mapM_headerLine_eq_ok {e : Encoding} {headers : List Value} {given : Lines} :
    headers.mapM (headerLine e) = .ok given ↔ List.Forall₂ (Writes e) headers given := by
  -- By induction on the headers, one line for each.
  induction headers generalizing given with
  | nil => simp [pure, Except.pure, eq_comm]
  | cons header rest ih =>
    rw [List.mapM_cons, List.forall₂_cons_left_iff]
    constructor
    · intro h
      obtain ⟨l, hl, h⟩ := bind_eq_ok.1 h
      obtain ⟨lines, hlines, h⟩ := bind_eq_ok.1 h
      cases h
      exact ⟨l, lines, headerLine_eq_ok.1 hl, ih.1 hlines, rfl⟩
    · rintro ⟨l, lines, hl, hlines, rfl⟩
      exact bind_eq_ok.2 ⟨l, headerLine_eq_ok.2 hl, bind_eq_ok.2 ⟨lines, ih.2 hlines, rfl⟩⟩

/-- Of headers that are written, each is. -/
theorem writes_of_mem {e : Encoding} {headers : List Value} {given : Lines}
    (h : List.Forall₂ (Writes e) headers given) {header : Value} (hmem : header ∈ headers) :
    ∃ l, Writes e header l := by
  obtain ⟨l, hl⟩ := exists_mapM_eq_ok.1 ⟨given, mapM_headerLine_eq_ok.2 h⟩ header hmem
  exact ⟨l, headerLine_eq_ok.1 hl⟩

/-- If headers cannot all be written, the first that cannot decides. -/
theorem mapM_headerLine_eq_error {e : Encoding} {headers : List Value} {f : LineError}
    (h : headers.mapM (headerLine e) = .error f) :
    ∃ before header behind, headers = before ++ header :: behind ∧
      (∀ g ∈ before, ∃ l, Writes e g l) ∧ ∀ l, ¬Writes e header l := by
  induction headers with
  | nil => cases h
  | cons header rest ih =>
    rw [List.mapM_cons] at h
    -- The first header cannot be written, or else one of the others.
    cases hfirst : headerLine e header with
    | error f' => exact ⟨[], header, rest, rfl, nofun, not_writes hfirst⟩
    | ok l =>
      cases hrest : rest.mapM (headerLine e) with
      | ok lines => rw [hfirst, hrest] at h; cases h
      | error f' =>
        rw [hfirst, hrest] at h
        cases h
        obtain ⟨before, bad, behind, rfl, hbefore, hbad⟩ := ih hrest
        refine ⟨header :: before, bad, behind, rfl, ?_, hbad⟩
        exact List.forall_mem_cons.2 ⟨⟨l, headerLine_eq_ok.1 hfirst⟩, hbefore⟩

/-! ### Setting headers -/

/-- A header is set by its line. -/
theorem setHeader_eq (r : Request) (header : Value) :
    r.setHeader header = ((headerLine r.setEncoding header).mapError .line).map fun l =>
      { r with lines := r.lines.set l } := by
  rw [Request.setHeader, headerLine]
  cases headerParts "value" header with
  | error e => rfl
  | ok parts =>
    simp only [mapError_ok, bind, Except.bind]
    cases Line.ofTexts r.setEncoding parts.1 parts.2 with
    | error e => rfl
    | ok l => rfl

/-- Headers are set by their lines, one after the other. -/
theorem foldlM_setHeader (headers : List Value) (r : Request) :
    headers.foldlM Request.setHeader r =
      ((headers.mapM (headerLine r.setEncoding)).mapError .line).map fun given =>
        { r with lines := given.foldl Lines.set r.lines } := by
  -- By induction on the headers; setting a line keeps the encoding in which the next is written.
  induction headers generalizing r with
  | nil => rfl
  | cons header rest ih =>
    rw [List.foldlM_cons, List.mapM_cons, setHeader_eq]
    cases headerLine r.setEncoding header with
    | error e => rfl
    | ok l =>
      have hsame : Request.setEncoding { r with lines := r.lines.set l } = r.setEncoding := rfl
      simp only [Except.map, bind, Except.bind, ih, mapError_ok, hsame]
      cases rest.mapM (headerLine r.setEncoding) with
      | error e => rfl
      | ok given => rfl

end Egress
