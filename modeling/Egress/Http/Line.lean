import Egress.Text.LetterCase
import Egress.Text.Utf8
import Egress.Value.Literal

/-! # Header lines

The header lines of a request, in the order and the letter case in which they are sent. Names are
compared without regard to ASCII case.

* `Lines.set`     one line of a name in the place of all
* `Lines.remove`  no line of a name
* `Lines.orDefault` a line of a name unless there is one
* `Lines.encoding` the encoding in which lines are read
* `Line.ofValues` the line of a name and a value that must be ASCII
* `Line.ofTexts`  the line of a name and a value in an encoding -/

namespace Egress.Http

open Egress.Text

/-- A header line. -/
structure Line where
  name : List UInt8
  value : List UInt8
  deriving DecidableEq, Repr

/-- A byte with an ASCII capital letter made small. -/
def lowerByte (b : UInt8) : UInt8 := if 65 ≤ b ∧ b ≤ 90 then b + 32 else b

/-- A name as it is compared. -/
def foldName (name : List UInt8) : List UInt8 := name.map lowerByte

theorem foldName_foldName (name : List UInt8) : foldName (foldName name) = foldName name := by
  simp only [foldName, List.map_map]
  refine List.map_congr_left fun b _ => ?_
  simp only [Function.comp, lowerByte]
  split
  · rename_i h
    have h1 : ¬((65 : UInt8) ≤ b + 32 ∧ b + 32 ≤ 90) := by
      obtain ⟨h, h'⟩ := h
      simp only [UInt8.le_iff_toNat_le, UInt8.toNat_add] at *
      simp at *
      omega
    simp [h1]
  · simp

/-- The bytes of an ASCII word. -/
def ascii (s : String) : List UInt8 := encodeUtf8 s.toList

/-- The line of two ASCII words. -/
def Line.ofAscii (name value : String) : Line := ⟨ascii name, ascii value⟩

/-- Header lines, in order. -/
abbrev Lines := List Line

namespace Lines

/-- Whether a line has a name. -/
def isNamed (name : List UInt8) (l : Line) : Bool := foldName l.name == foldName name

def has (lines : Lines) (name : String) : Bool := lines.any (isNamed (ascii name))

/-- The lines without those of a name. -/
def remove (lines : Lines) (name : String) : Lines := lines.filter (!isNamed (ascii name) ·)

/-- The line in the place of the first of its name, with the others of that name left out. -/
def replaceFirst (line : Line) : Lines → Lines
  | [] => []
  | l :: rest =>
    if isNamed line.name l then line :: rest.filter (!isNamed line.name ·)
    else l :: replaceFirst line rest

/-- The lines with one line in the place of all of its name, or at the end. -/
def set (lines : Lines) (line : Line) : Lines :=
  if lines.any (isNamed line.name) then replaceFirst line lines else lines ++ [line]

/-- The lines with one more at the end, unless one of its name is there. -/
def orDefault (lines : Lines) (line : Line) : Lines :=
  if lines.any (isNamed line.name) then lines else lines ++ [line]

end Lines

/-! ## Lines of values -/

/-- Why a header cannot be written. -/
inductive LineError where
  -- An entry is no header, by the word for its type and the part that was asked for.
  | notHeader (typeName part : String)
  -- A value has no encoding, by the word for its type.
  | noEncoding (typeName : String)
  -- The value of a header is neither text nor bytes, by the name of its class.
  | badValue (className : String)
  | notAscii (c : Char) (first last : Nat)
  | notLatin1 (c : Char) (first last : Nat)
  -- A name is not found when its text is looked up.
  | notFound (name : String)
  deriving DecidableEq, Repr

/-- The escape of a character outside ASCII. -/
def escapeOf (c : Char) : String :=
  let n := c.toNat
  String.ofList (if n < 0x100 then '\\' :: 'x' :: hexDigits 2 n
    else if n < 0x10000 then '\\' :: 'u' :: hexDigits 4 n else '\\' :: 'U' :: hexDigits 8 n)

/-- What is said about the characters from one place to another, the first of which is `c`, if an
encoding has only the first `count` characters. -/
def outsideMessage (encoding : String) (count : Nat) (c : Char) (first last : Nat) : String :=
  let what := if first = last then "character '" ++ escapeOf c ++ "' in position " ++ toString first
    else "characters in position " ++ toString first ++ "-" ++ toString last
  "'" ++ encoding ++ "' codec can't encode " ++ what ++ ": ordinal not in range(" ++
    toString count ++ ")"

/-- The wording of an error. -/
def LineError.message : LineError → String
  | .notHeader t part => "'" ++ t ++ "' object has no attribute '" ++ part ++ "'"
  | .noEncoding t => "'" ++ t ++ "' object has no attribute 'encode'"
  | .badValue c => "Header value must be str or bytes, not <class '" ++ c ++ "'>"
  | .notAscii c first last => outsideMessage "ascii" 128 c first last
  | .notLatin1 c first last => outsideMessage "latin-1" 256 c first last
  | .notFound name => quoted name

def className : Value → String
  | .url _ => "httpx.URL"
  | .header .. => "proxy_destination.headers.Header"
  | .member m => "proxy_destination.models." ++ m.enumeration
  | v => v.typeName

/-! ### Encodings -/

/-- The encodings of header lines. -/
inductive Encoding where
  | ascii
  | utf8
  -- One byte for each character.
  | latin1
  deriving DecidableEq, Repr

/-- Fails with the characters that an encoding does not have: the first of them, its place, and the
place of the last of the run that it begins. -/
def requireAll (has : Char → Bool) (e : Char → Nat → Nat → LineError) (s : List Char) :
    Except LineError Unit :=
  match s.dropWhile has with
  | [] => .ok ()
  | c :: rest =>
    let first := (s.takeWhile has).length
    .error (e c first (first + (rest.takeWhile (!has ·)).length))

namespace Encoding

/-- The bytes of a text. -/
def encode (e : Encoding) (s : List Char) : Except LineError (List UInt8) :=
  match e with
  | .ascii => (requireAll (·.toNat < 128) .notAscii s).map fun _ => encodeUtf8 s
  | .utf8 => .ok (encodeUtf8 s)
  | .latin1 =>
    (requireAll (·.toNat < 256) .notLatin1 s).map fun _ => s.map fun c => UInt8.ofNat c.toNat

/-- The text of bytes. -/
def decode (e : Encoding) (data : List UInt8) : List Char :=
  match e with
  | .ascii | .utf8 => decodeUtf8Lossy data
  | .latin1 => Text.latin1 data

end Encoding

/-- Whether a line can be read in an encoding. -/
def Line.isReadIn (l : Line) (e : Encoding) : Bool :=
  match e with
  | .ascii => (l.name ++ l.value).all (· < 128)
  | .utf8 => (decodeUtf8? l.name).isSome && (decodeUtf8? l.value).isSome
  | .latin1 => true

/-- The encoding in which lines are read: the first in which all of them can be. -/
def Lines.encoding (lines : Lines) : Encoding :=
  if lines.all (·.isReadIn .ascii) then .ascii
  else if lines.all (·.isReadIn .utf8) then .utf8
  else .latin1

/-- Looks up the text of every name in lower case. That fails for a name with a capital letter
outside ASCII, which is no name in lower case. -/
def Lines.lookUp (lines : Lines) : Except LineError Unit :=
  discard <| lines.mapM fun l => do
    let name := lines.encoding.decode (foldName l.name)
    let bytes ← lines.encoding.encode (lower name)
    if lines.any (isNamed bytes) then pure () else .error (.notFound (String.ofList name))

/-! ### Writing -/

/-- The bytes of a name: bytes as they are, or an ASCII text. -/
def nameBytes (v : Value) : Except LineError (List UInt8) :=
  match v, v.text? with
  | .bytes .frozen data, _ => .ok data
  | _, some s => Encoding.ascii.encode s.toList
  | v, none => .error (.noEncoding v.typeName)

/-- The bytes of a value: bytes as they are, or an ASCII text. -/
def valueBytes (v : Value) : Except LineError (List UInt8) :=
  match v, v.text? with
  | .bytes .frozen data, _ => .ok data
  | _, some s => Encoding.ascii.encode s.toList
  | v, none => .error (.badValue (className v))

/-- The bytes of a text in an encoding. -/
def textBytes (e : Encoding) (v : Value) : Except LineError (List UInt8) :=
  match v.text? with
  | some s => e.encode s.toList
  | none => .error (.noEncoding v.typeName)

/-- The line of a name and a value that are ASCII texts or bytes. -/
def Line.ofValues (name value : Value) : Except LineError Line := do
  let n ← nameBytes name
  let v ← valueBytes value
  return ⟨n, v⟩

/-- The line of a name and a value that are texts, in an encoding. -/
def Line.ofTexts (e : Encoding) (name value : Value) : Except LineError Line := do
  let n ← textBytes e name
  let v ← textBytes e value
  return ⟨n, v⟩

/-- The name and the value of a header; `part` is the one that is asked for first. -/
def headerParts (part : String) (v : Value) : Except LineError (Value × Value) :=
  match v with
  | .header name value => .ok (name, value)
  | v => .error (.notHeader v.typeName part)

/-- The lines that stand for defaults, without those that are given, and then the given ones. Names
are looked up as ASCII texts. -/
def mergeLines (defaults given : Lines) : Except LineError Lines := do
  let names := (given.map fun l => foldName l.name).eraseDups
  discard <| names.mapM fun n => Encoding.ascii.encode (lower (given.encoding.decode n))
  return defaults.filter (fun d => !given.any (Lines.isNamed d.name)) ++ given

end Egress.Http
