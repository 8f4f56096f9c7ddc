import Egress.Number.FloatText
import Egress.Value.Equal

/-! # Types of properties

A property is stored as any value and read at a type. Reading is lenient: texts are parsed, numbers
are converted when nothing is lost, and one kind of container is taken for another.

* `PropertyType`       the types
* `PropertyType.read`  the value read at a type, or what is wrong with it
* `TypeFault.message`  the wording of that -/

namespace Egress

open Egress.Text Egress.Number

/-- The types that values are read at. -/
inductive PropertyType where
  | text
  | integer
  -- Floating-point numbers.
  | float
  | truth
  | bytes
  | any
  | list (element : PropertyType)
  | tuple
  | set
  | frozenSet
  -- Dictionaries with keys and values of two types.
  | map (key value : PropertyType)
  | optional (type : PropertyType)
  | proxyType
  | authenticationType
  deriving DecidableEq, Repr

def PropertyType.word : PropertyType → String
  | .text => "str"
  | .integer => "int"
  | .float => "float"
  | .truth => "bool"
  | .bytes => "bytes"
  | .any => "Any"
  | .list .any => "list"
  | .list _ => "List"
  | .tuple => "tuple"
  | .set => "set"
  | .frozenSet => "frozenset"
  | .map .any .any => "dict"
  | .map _ _ => "Dict"
  | .optional _ => "Optional"
  | .proxyType => "ProxyType"
  | .authenticationType => "AuthenticationType"

/-- Why a value cannot be read at a type. -/
inductive TypeFault where
  | notText
  -- It is bytes that are no text.
  | notUtf8
  | notInteger
  | notIntegerText
  -- It is a number between integers.
  | fractional
  -- It is infinite or no number.
  | notFinite
  | tooLarge
  -- It is no floating-point number.
  | notFloat
  | notFloatText
  | notTruth
  | notTruthText
  | notBytes
  | notList
  | notTuple
  | notSet
  | notFrozenSet
  -- It has an element that no set can have.
  | unhashable
  | notMap
  | notProxyType
  | notAuthenticationType
  deriving DecidableEq, Repr

/-- The wording of a fault. -/
def TypeFault.message : TypeFault → String
  | .notText => "Input should be a valid string"
  | .notUtf8 => "Input should be a valid string, unable to parse raw data as a unicode string"
  | .notInteger => "Input should be a valid integer"
  | .notIntegerText => "Input should be a valid integer, unable to parse string as an integer"
  | .fractional => "Input should be a valid integer, got a number with a fractional part"
  | .notFinite => "Input should be a finite number"
  | .tooLarge => "Unable to parse input string as an integer, exceeded maximum size"
  | .notFloat => "Input should be a valid number"
  | .notFloatText => "Input should be a valid number, unable to parse string as a number"
  | .notTruth => "Input should be a valid boolean"
  | .notTruthText => "Input should be a valid boolean, unable to interpret input"
  | .notBytes => "Input should be a valid bytes"
  | .notList => "Input should be a valid list"
  | .notTuple => "Input should be a valid tuple"
  | .notSet => "Input should be a valid set"
  | .notFrozenSet => "Input should be a valid frozenset"
  | .unhashable => "Set items should be hashable"
  | .notMap => "Input should be a valid dictionary"
  | .notProxyType => "Input should be 'Internet' or 'OnPremise'"
  | .notAuthenticationType =>
    "Input should be 'NoAuthentication', 'BasicAuthentication' or 'OAuth2ClientCredentials'"

namespace PropertyType

/-! ## Scalars -/

/-- What a value says as a text: a text, or bytes in UTF-8, which may be malformed. -/
inductive Wording where
  | text (s : List Char)
  -- Bytes that are no text.
  | malformed
  -- The value is neither text nor bytes.
  | other

/-- What a value says as a text; mutable bytes say nothing. -/
def wording : Value → Wording
  | .text s => .text s.toList
  | .member m => .text m.text.toList
  | .bytes .frozen data => match decodeUtf8? data with
    | some s => .text s
    | none => .malformed
  | _ => .other

def readText : Value → Except TypeFault String
  | .text s => .ok s
  | .member m => .ok m.text
  | .bytes _ data => match decodeUtf8? data with
    | some s => .ok (String.ofList s)
    | none => .error .notUtf8
  | _ => .error .notText

/-- Reads an integer of a floating-point number, within 64 bits. -/
def integerOfFloat (x : Binary64) : Except TypeFault Int :=
  if !x.isFinite then .error .notFinite
  else match x.toInt? with
    | none => .error .fractional
    | some n => if n.natAbs < Nat.pow 2 63 then .ok n else .error .tooLarge

def readInteger (v : Value) : Except TypeFault Int :=
  match wording v, v with
  | .text s, _ => match readDecimal s with
    | .ok n => .ok n
    | .error .malformed => .error .notIntegerText
    | .error (.tooLong _) => .error .tooLarge
  | .malformed, _ => .error .notIntegerText
  | .other, .int n => .ok n
  | .other, .bool b => .ok (if b then 1 else 0)
  | .other, .float x => integerOfFloat x
  | .other, _ => .error .notInteger

/-- The texts that mean true. -/
def trueTexts : List String := ["1", "t", "true", "y", "yes", "on"]

/-- The texts that mean false. -/
def falseTexts : List String := ["0", "f", "false", "n", "no", "off"]

/-- The truth value of an integer, which must be zero or one. -/
def truthOfInt (n : Int) : Except TypeFault Bool :=
  if n = 0 then .ok false else if n = 1 then .ok true else .error .notTruthText

def readTruth (v : Value) : Except TypeFault Bool :=
  match wording v, v with
  | .text s, _ =>
    let word := String.ofList (s.map Char.toLower)
    if trueTexts.contains word then .ok true
    else if falseTexts.contains word then .ok false
    else .error .notTruthText
  | .malformed, _ => .error .notTruthText
  | .other, .bool b => .ok b
  | .other, .int n =>
    if -(Nat.pow 2 63 : Nat) ≤ n ∧ n < (Nat.pow 2 63 : Nat) then truthOfInt n else .error .notTruth
  | .other, .float x => match integerOfFloat x with
    | .ok n => truthOfInt n
    | .error _ => .error .notTruth
  | .other, _ => .error .notTruth

/-- Reads a floating-point number. -/
def readFloatValue (v : Value) : Except TypeFault Binary64 :=
  match wording v, v with
  | .text s, _ => match readFloat asciiDigit? (trimBy isSpace s) with
    | some x => .ok x
    | none => .error .notFloatText
  | .malformed, _ => .error .notFloatText
  | .other, .float x => .ok x
  | .other, .bool b => .ok (.ofInt (if b then 1 else 0))
  | .other, .int n => let x := Binary64.ofInt n; if x.isFinite then .ok x else .error .notFloat
  | .other, _ => .error .notFloat

/-- Reads bytes. -/
def readBytes : Value → Except TypeFault (List UInt8)
  | .text s => .ok (encodeUtf8 s.toList)
  | .member m => .ok (encodeUtf8 m.text.toList)
  | .bytes _ data => .ok data
  | _ => .error .notBytes

/-- Reads a member of an enumeration by itself or by its text. -/
def readMember (members : List Member) (fault : TypeFault) (v : Value) : Except TypeFault Value :=
  match v with
  | .member m => if m ∈ members then .ok v else .error fault
  | _ => match wording v with
    | .text s => match members.find? fun m => m.text.toList = s with
      | some m => .ok (.member m)
      | none => .error fault
    | _ => .error fault

/-! ## Containers -/

/-- The elements of a sequence or a set. -/
def elements? : Value → Option (List Value)
  | .seq _ items => some items
  | .set _ items => some items
  | _ => none

/-- The elements of a set made of the elements of a sequence or a set. -/
def readSet (fault : TypeFault) (v : Value) : Except TypeFault (List Value) :=
  match elements? v with
  | none => .error fault
  | some items => match Value.toItems items with
    | .ok items => .ok items
    | .error _ => .error .unhashable

def read (t : PropertyType) (v : Value) : Except TypeFault Value :=
  match t with
  | .text => (readText v).map .text
  | .integer => (readInteger v).map .int
  | .float => (readFloatValue v).map .float
  | .truth => (readTruth v).map .bool
  | .bytes => (readBytes v).map (.bytes .frozen)
  | .any => .ok v
  | .list element => match elements? v with
    | some items => (items.mapM fun item => read element item).map (.seq .mutable)
    | none => .error .notList
  | .tuple => match elements? v with
    | some items => .ok (.seq .frozen items)
    | none => .error .notTuple
  | .set => (readSet .notSet v).map (.set .mutable)
  | .frozenSet => (readSet .notFrozenSet v).map (.set .frozen)
  | .map key value => match v with
    | .map _ entries =>
      (entries.mapM fun (k, v) => (read key k).bind fun k => (read value v).map fun v => (k, v)).map
        fun entries => .map .mutable (Value.putAll entries)
    | _ => .error .notMap
  | .optional type => match v with
    | .null => .ok .null
    | v => read type v
  | .proxyType => readMember [.proxy .internet, .proxy .onPremise] .notProxyType v
  | .authenticationType =>
    readMember [.authentication .noAuthentication, .authentication .basicAuthentication,
      .authentication .oauth2ClientCredentials] .notAuthenticationType v

end PropertyType

end Egress
