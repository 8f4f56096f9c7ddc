import Egress.Host.LabelTable
import Egress.Host.Punycode
import Egress.Text.Normal
import Egress.Text.Quoted

/-! # Internationalized domain names

A domain name is a sequence of labels. A label outside ASCII is checked and written in its ASCII
form, `xn--` and Punycode; a label that begins with `xn--` is read back and checked.

* `checkLabel`     the validity of a label: normal form, hyphens, first mark, code points, direction
* `toAscii`        the ASCII form of a domain
* `toUnicode`      the domain that an ASCII form stands for

Labels are lists of code points, because the Punycode of a label may name surrogates. -/

namespace Egress.Host

open Egress.Text

/-- What is wrong with a domain name. -/
inductive NameError where
  -- The domain has too many characters.
  | domainTooLong
  -- There is no label at all.
  | emptyDomain
  | emptyLabel
  -- A label has too many characters.
  | labelTooLong
  -- A label is not in Normalization Form C.
  | notNormal
  -- The third and the fourth character of a label are hyphens.
  | innerHyphens
  -- A label starts or ends with a hyphen.
  | outerHyphen
  -- A label begins with a combining mark.
  | initialMark
  -- A code point that no label may hold.
  | codepoint (n position : Nat) (label : List Nat)
  -- A joiner between the wrong neighbours, which `checkCodes` reports like unknown neighbours.
  | joiner (n position : Nat) (label : List Nat)
  -- A joiner beside a code point without properties.
  | joinerNeighbour (n position : Nat) (label : List Nat)
  -- Another code point in the wrong context.
  | context (n position : Nat) (label : List Nat)
  | unknownDirection (position : Nat) (label : List Nat)
  -- A label with right-to-left characters begins with the wrong direction.
  | firstDirection (label : List Nat)
  -- A direction that a label of this kind may not hold.
  | innerDirection (position : Nat) (rightToLeft : Bool)
  -- European and Arabic numbers in one label.
  | mixedNumbers
  -- A label ends with the wrong direction.
  | lastDirection
  -- Nothing follows `xn--`.
  | emptyEncoded
  -- What follows `xn--` ends with a hyphen.
  | encodedHyphen
  -- What follows `xn--` is not Punycode.
  | badEncoded
  deriving DecidableEq, Repr

/-- `U+` and at least four upper case hexadecimal digits. -/
def codeName (n : Nat) : String :=
  let width := if n < 0x10000 then 4 else if n < 0x100000 then 5 else 6
  "U+" ++ String.ofList ((hexDigits width n).map Char.toUpper)

/-- The wording of an error. -/
def NameError.message : NameError → String
  | .domainTooLong => "Domain too long"
  | .emptyDomain => "Empty domain"
  | .emptyLabel => "Empty Label"
  | .labelTooLong => "Label too long"
  | .notNormal => "Label must be in Normalization Form C"
  | .innerHyphens => "Label has disallowed hyphens in 3rd and 4th position"
  | .outerHyphen => "Label must not start or end with a hyphen"
  | .initialMark => "Label begins with an illegal combining character"
  | .codepoint n i l => "Codepoint " ++ codeName n ++ " at position " ++ toString i ++ " of " ++
      quotedCodes l ++ " not allowed"
  | .joiner n i l =>
    "Joiner " ++ codeName n ++ " not allowed at position " ++ toString i ++ " in " ++
      quotedCodes l
  | .joinerNeighbour n i l => "Unknown codepoint adjacent to joiner " ++ codeName n ++
      " at position " ++ toString i ++ " in " ++ quotedCodes l
  | .context n i l => "Codepoint " ++ codeName n ++ " not allowed at position " ++ toString i ++
      " in " ++ quotedCodes l
  | .unknownDirection i l => "Unknown directionality in label " ++ quotedCodes l ++
      " at position " ++ toString i
  | .firstDirection l => "First codepoint in label " ++ quotedCodes l ++
      " must be directionality L, R or AL"
  | .innerDirection i rtl => "Invalid direction for codepoint at position " ++ toString i ++
      " in a " ++ (if rtl then "right-to-left" else "left-to-right") ++ " label"
  | .mixedNumbers => "Can not mix numeral types in a right-to-left label"
  | .lastDirection => "Label ends with illegal codepoint directionality"
  | .emptyEncoded => "Malformed A-label, no Punycode eligible content found"
  | .encodedHyphen => "A-label must not end with a hyphen"
  | .badEncoded => "Invalid A-label"

/-! ## Contexts -/

/-- The direction of a code point. -/
def direction (n : Nat) : Direction := (directions.find? n).getD .leftToRight

/-- Whether the first letter that is not passed over joins towards the joiner. -/
def joinsFirst (kind : Joining) (s : List Nat) : Bool :=
  match s.dropWhile fun n => joiningTypes.find? n = some .transparent with
  | [] => false
  | n :: _ => joiningTypes.find? n = some kind || joiningTypes.find? n = some .dual

/-- Whether a joiner may stand between the reversed text before it and the text after it; `none`
if the code point before it has no properties. -/
def joinerAllowed (n : Nat) (before after : List Nat) : Option Bool :=
  match before with
  | [] => some (n = 0x200C && joinsFirst .left before && joinsFirst .right after)
  | m :: _ =>
    if combiningClass m = 9 then some true
    else if combiningClass m = 0 ∧ direction m = .unknown then none
    else some (n = 0x200C && joinsFirst .left before && joinsFirst .right after)

/-- Whether a code point other than a joiner is in a context that allows it, in a label. -/
def contextAllowed (n : Nat) (before after label : List Nat) : Bool :=
  if n = 0xB7 then before.head? = some 0x6C && after.head? = some 0x6C
  else if n = 0x375 then after.head?.any greek.contains
  else if n = 0x5F3 ∨ n = 0x5F4 then before.head?.any hebrew.contains
  else if n = 0x30FB then label.any fun m => m ≠ 0x30FB && japanese.contains m
  else if 0x660 ≤ n ∧ n ≤ 0x669 then !label.any fun m => 0x6F0 ≤ m && m ≤ 0x6F9
  else if 0x6F0 ≤ n ∧ n ≤ 0x6F9 then !label.any fun m => 0x660 ≤ m && m ≤ 0x669
  else false

/-- Whether a code point is valid in every label. In the ASCII range these are the small letters,
the digits and the hyphen. -/
def isProtocolValid (n : Nat) : Bool :=
  if n < 0x80 then n = 0x2D || (0x30 ≤ n && n ≤ 0x39) || (0x61 ≤ n && n ≤ 0x7A)
  else protocolValid.contains n

/-- Checks each code point of `rest`, read after the reversed text `before`. -/
def checkCodes (label before : List Nat) : List Nat → Except NameError Unit
  | [] => .ok ()
  | n :: after =>
    let position := before.length + 1
    if isProtocolValid n then checkCodes label (n :: before) after
    else if contextJoiner.contains n then
      -- The error about forbidden neighbours is taken for one about unknown ones.
      match joinerAllowed n before after with
      | some true => checkCodes label (n :: before) after
      | some false | none => .error (.joinerNeighbour n position label)
    else if contextOther.contains n then
      if contextAllowed n before after label then checkCodes label (n :: before) after
      else .error (.context n position label)
    else .error (.codepoint n position label)

/-! ## Directions -/

/-- The directions that make a label subject to the rules for bidirectional text. -/
def Direction.isRightward : Direction → Bool
  | .rightToLeft | .arabicLetter | .arabicNumber => true
  | _ => false

/-- The directions allowed in labels of either kind. -/
def Direction.isNeutral : Direction → Bool
  | .europeanNumber | .europeanSeparator | .commonSeparator | .europeanTerminator | .otherNeutral
  | .boundaryNeutral | .nonspacingMark => true
  | _ => false

/-- What is known of a label read from its beginning. -/
structure DirectionScan where
  -- Whether the label could end here.
  ending : Bool
  -- The kind of number seen.
  number : Option Direction

/-- Reads the direction of the code point at a position. -/
def DirectionScan.see (rtl : Bool) (s : DirectionScan) (position : Nat) (d : Direction) :
    Except NameError DirectionScan :=
  if rtl then
    if !(d.isRightward || d.isNeutral) then .error (.innerDirection position true)
    else
      let ending := if d.isRightward || d = .europeanNumber then true
        else if d = .nonspacingMark then s.ending else false
      if d = .arabicNumber ∨ d = .europeanNumber then
        match s.number with
        | none => .ok ⟨ending, some d⟩
        | some k => if k = d then .ok ⟨ending, some d⟩ else .error .mixedNumbers
      else .ok ⟨ending, s.number⟩
  else if !(d = .leftToRight || d.isNeutral) then .error (.innerDirection position false)
  else if d = .leftToRight ∨ d = .europeanNumber then .ok ⟨true, s.number⟩
  else .ok ⟨if d = .nonspacingMark then s.ending else false, s.number⟩

/-- Reads the directions from a position on. -/
def DirectionScan.run (rtl : Bool) (s : DirectionScan) (position : Nat) :
    List Direction → Except NameError DirectionScan
  | [] => .ok s
  | d :: rest => (s.see rtl position d).bind fun s => s.run rtl (position + 1) rest

/-- Checks the rules for bidirectional text, which apply to labels with a right-to-left
character. -/
def checkDirections (label : List Nat) : Except NameError Unit :=
  let ds := label.map direction
  match ds.findIdx? (· = .unknown) with
  | some i => .error (.unknownDirection (i + 1) label)
  | none =>
    if !ds.any Direction.isRightward then .ok ()
    else
      match ds.head? with
      | some .rightToLeft | some .arabicLetter | some .leftToRight =>
        (DirectionScan.run (ds.head? ≠ some .leftToRight) ⟨false, none⟩ 1 ds).bind fun s =>
          if s.ending then .ok () else .error .lastDirection
      | _ => .error (.firstDirection label)

/-! ## Labels and domains -/

/-- The code points of a text. -/
def codes (s : List Char) : List Nat := s.map Char.toNat

/-- Checks that a label is valid. -/
def checkLabel (label : List Nat) : Except NameError Unit :=
  if label.length > 254 then .error .labelTooLong
  else if label = [] then .error .emptyLabel
  else if normalize label ≠ label then .error .notNormal
  else if (label.drop 2).take 2 = [45, 45] then .error .innerHyphens
  else if label.head? = some 45 ∨ label.getLast? = some 45 then .error .outerHyphen
  else if label.head?.any combiningMarks.contains then .error .initialMark
  else (checkCodes label [] label).bind fun _ => checkDirections label

/-- The label that an ASCII label stands for. -/
def labelToUnicode (label : List Char) : Except NameError (List Nat) :=
  let label := label.map Char.toLower
  match label with
  | 'x' :: 'n' :: '-' :: '-' :: encoded =>
    if encoded = [] then .error .emptyEncoded
    else if encoded.getLast? = some '-' then .error .encodedHyphen
    else match Punycode.decode encoded with
      | none => .error .badEncoded
      | some decoded => (checkLabel decoded).map fun _ => decoded
  | _ => (checkLabel (codes label)).map fun _ => codes label

/-- The ASCII form of a label. -/
def labelToAscii (label : List Char) : Except NameError (List Char) :=
  if label.all fun c => c.toNat < 128 then
    (labelToUnicode label).bind fun _ =>
      if label.length > 63 then .error .labelTooLong else .ok label
  else (checkLabel (codes label)).bind fun _ =>
    let encoded := "xn--".toList ++ Punycode.encode (codes label)
    if encoded.length > 63 then .error .labelTooLong else .ok encoded

/-- The full stops that separate labels. -/
def isLabelSeparator (c : Char) : Bool :=
  c = '.' || c.toNat = 0x3002 || c.toNat = 0xFF0E || c.toNat = 0xFF61

/-- The labels of a domain, and whether a full stop follows the last one. -/
def labelsOf (domain : List Char) : List (List Char) × Bool :=
  let labels := splitBy isLabelSeparator domain
  if labels.getLast? = some [] then (labels.dropLast, true) else (labels, false)

/-- Labels joined by full stops. -/
def joinLabels (dot : α) (labels : List (List α)) (trailing : Bool) : List α :=
  (labels.intersperse [dot]).flatten ++ (if trailing then [dot] else [])

/-- The ASCII form of a domain. -/
def toAscii (domain : List Char) : Except NameError (List Char) :=
  if domain.length > 254 then .error .domainTooLong
  else if domain = [] then .error .emptyDomain
  else
    let (labels, trailing) := labelsOf domain
    (labels.mapM labelToAscii).bind fun labels =>
      let name := joinLabels '.' labels trailing
      if name.length > (if trailing then 254 else 253) then .error .domainTooLong else .ok name

/-- The domain that an ASCII form stands for. -/
def toUnicode (domain : List Char) : Except NameError (List Nat) :=
  if domain.length > 254 then .error .domainTooLong
  else if domain = [] then .error .emptyDomain
  else
    let (labels, trailing) := labelsOf domain
    (labels.mapM labelToUnicode).map fun labels => joinLabels 46 labels trailing

end Egress.Host
