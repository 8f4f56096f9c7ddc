import Egress.Property.Type
import Egress.Text.LetterCase
import Egress.Value.Change
import Egress.Value.Literal

/-! # Conversions

A property that is read by its plain name may be passed through a conversion, which is stricter
than reading at a type: `Conversion.apply`. -/

namespace Egress

open Egress.Text Egress.Number

/-- The conversions. -/
inductive Conversion where
  | integer
  | text
  -- To a floating-point number.
  | float
  | truth
  -- To the number of elements.
  | length
  | list
  | upper
  deriving DecidableEq, Repr

/-- Why a value cannot be converted, or taken for what it should be. -/
inductive ConversionFault where
  -- A text or bytes, shown as written down, that is no integer.
  | notInteger (shown : String)
  -- A text with too many digits.
  | digits (count : Nat)
  -- No number cannot become an integer.
  | nan
  -- An infinity cannot become an integer.
  | infinite
  -- A value of this type cannot become an integer.
  | integerType (typeName : String)
  -- A text or bytes, shown as written down, that is no floating-point number.
  | notFloat (shown : String)
  -- An integer too large for a floating-point number.
  | tooLarge
  -- A value of this type cannot become a floating-point number.
  | floatType (typeName : String)
  | lengthType (typeName : String)
  -- A value of this type has no elements.
  | notIterable (typeName : String)
  -- A value of this type has no upper case.
  | upperType (typeName : String)
  -- A container cannot be changed like this.
  | change (e : ChangeFault)
  deriving DecidableEq, Repr

/-- The wording of a fault. -/
def ConversionFault.message : ConversionFault → String
  | .notInteger shown => "invalid literal for int() with base 10: " ++
      String.ofList (shown.toList.take 200)
  | .digits count => "Exceeds the limit (4300 digits) for integer string conversion: value has " ++
      toString count ++ " digits; use sys.set_int_max_str_digits() to increase the limit"
  | .nan => "cannot convert float NaN to integer"
  | .infinite => "cannot convert float infinity to integer"
  | .integerType t =>
    "int() argument must be a string, a bytes-like object or a real number, not '" ++ t ++ "'"
  | .notFloat shown => "could not convert string to float: " ++ shown
  | .tooLarge => "int too large to convert to float"
  | .floatType t => "float() argument must be a string or a real number, not '" ++ t ++ "'"
  | .lengthType t => "object of type '" ++ t ++ "' has no len()"
  | .notIterable t => "'" ++ t ++ "' object is not iterable"
  | .upperType t => "'" ++ t ++ "' object has no attribute 'upper'"
  | .change e => e.message

namespace Value

/-- Whether a value counts as true: everything but null, zeros and what is empty. -/
def isTruthy : Value → Bool
  | .null => false
  | .bool b => b
  | .int n => n != 0
  | .float x => !x.isZero
  | .text s => s != ""
  | .member m => m.text != ""
  | .bytes _ data => !data.isEmpty
  | .seq _ items => !items.isEmpty
  | .set _ items => !items.isEmpty
  | .map _ entries => !entries.isEmpty
  | .url _ | .header .. | .ref _ => true

/-- The elements of a value that has some. -/
def elements? : Value → Option (List Value)
  | .text s => some (s.toList.map fun c => .text (String.singleton c))
  | .member m => some (m.text.toList.map fun c => .text (String.singleton c))
  | .bytes _ data => some (data.map fun b => .int b.toNat)
  | .seq _ items => some items
  | .set _ items => some items
  | .map _ entries => some (entries.map (·.1))
  | _ => none

end Value

namespace Conversion

/-- The result of reading an integer from a text that is shown as `shown` in a fault. -/
def ofIntText (shown : String) (r : Except IntFault Int) : Except ConversionFault Value :=
  match r with
  | .ok n => .ok (.int n)
  | .error .malformed => .error (.notInteger shown)
  | .error (.tooLong count) => .error (.digits count)

/-- Bytes as ASCII text, if they are. -/
def ascii? (data : List UInt8) : Option (List Char) :=
  if data.all (· < 128) then some (latin1 data) else none

def toInteger (v : Value) : Except ConversionFault Value :=
  match v with
  | .bool b => .ok (.int (if b then 1 else 0))
  | .int n => .ok (.int n)
  | .float x => match x with
    | .nan _ => .error .nan
    | .infinite _ => .error .infinite
    | .finite .. => .ok (.int (x.truncate?.getD 0))
  | .text s => ofIntText v.literal (readInt s.toList)
  | .member m => ofIntText v.literal (readInt m.text.toList)
  | .bytes _ data => match ascii? data with
    | some s => ofIntText (quotedBytes data) (readInt s)
    | none => .error (.notInteger (quotedBytes data))
  | _ => .error (.integerType v.typeName)

/-- The result of reading a floating-point number from a text that is shown as `shown` in a
fault. -/
def ofFloatText (shown : String) (s : List Char) : Except ConversionFault Value :=
  match readFloat digitValue? (trim s) with
  | some x => .ok (.float x)
  | none => .error (.notFloat shown)

/-- Converts a value to a floating-point number. -/
def toFloat (v : Value) : Except ConversionFault Value :=
  match v with
  | .bool b => .ok (.float (.ofInt (if b then 1 else 0)))
  | .int n => let x := Binary64.ofInt n; if x.isFinite then .ok (.float x) else .error .tooLarge
  | .float x => .ok (.float x)
  | .text s => ofFloatText v.literal s.toList
  | .member m => ofFloatText v.literal m.text.toList
  | .bytes _ data => ofFloatText v.literal ((ascii? data).getD ['?'])
  | _ => .error (.floatType v.typeName)

def apply (f : Conversion) (v : Value) : Except ConversionFault Value :=
  match f with
  | .integer => toInteger v
  | .text => .ok (.text v.display)
  | .float => toFloat v
  | .truth => .ok (.bool v.isTruthy)
  | .length => match v.elements? with
    | some items => .ok (.int items.length)
    | none => .error (.lengthType v.typeName)
  | .list => match v.elements? with
    | some items => .ok (.seq .mutable items)
    | none => .error (.notIterable v.typeName)
  | .upper => match v with
    | .text s => .ok (.text (String.ofList (Text.upper s.toList)))
    | .member m => .ok (.text (String.ofList (Text.upper m.text.toList)))
    | .bytes access data => .ok (.bytes access (data.map fun b =>
        if 97 ≤ b ∧ b ≤ 122 then b - 32 else b))
    | v => .error (.upperType v.typeName)

end Conversion

end Egress
