import Egress.Value.Literal

/-! # JSON bodies

A value as the body of a request: compact, with characters outside ASCII as they are. -/

namespace Egress.Http

/-- Why a value is no JSON. -/
inductive JsonError where
  -- A floating-point number that is infinite or no number.
  | notFinite
  | badValue (typeName : String)
  | badKey (typeName : String)
  deriving DecidableEq, Repr

/-- The wording of an error. -/
def JsonError.message : JsonError → String
  | .notFinite => "Out of range float values are not JSON compliant"
  | .badValue t => "Object of type " ++ t ++ " is not JSON serializable"
  | .badKey t => "keys must be str, int, float, bool or None, not " ++ t

namespace Json

/-- A character of a text between quotes. -/
def escaped (c : Char) : List Char :=
  match c with
  | '"' => ['\\', '"']
  | '\\' => ['\\', '\\']
  | '\n' => ['\\', 'n']
  | '\r' => ['\\', 'r']
  | '\t' => ['\\', 't']
  | '\x0c' => ['\\', 'f']
  | '\x08' => ['\\', 'b']
  | c => if c.toNat < 0x20 then '\\' :: 'u' :: Text.hexDigits 4 c.toNat else [c]

/-- A text between quotes. -/
def quote (s : String) : String := String.ofList ('"' :: s.toList.flatMap escaped ++ ['"'])

/-- A floating-point number. -/
def number (x : Binary64) : Except JsonError String :=
  if x.isFinite then .ok x.text else .error .notFinite

/-- The text of a key. -/
def key (k : Value) : Except JsonError String :=
  match k with
  | .text s => .ok (quote s)
  | .member m => .ok (quote m.text)
  | .int n => .ok (quote (toString n))
  | .bool b => .ok (quote (if b then "true" else "false"))
  | .null => .ok (quote "null")
  | .float x => (number x).map quote
  | k => .error (.badKey k.typeName)

mutual

def text : Value → Except JsonError String
  | .null => .ok "null"
  | .bool b => .ok (if b then "true" else "false")
  | .int n => .ok (toString n)
  | .float x => number x
  | .text s => .ok (quote s)
  | .member m => .ok (quote m.text)
  | .seq _ items => (texts items).map fun ts => "[" ++ ",".intercalate ts ++ "]"
  | .map .mutable entries => (members entries).map fun ms => "\x7b" ++ ",".intercalate ms ++ "\x7d"
  | v => .error (.badValue v.typeName)

/-- The texts of values, in order. -/
def texts : List Value → Except JsonError (List String)
  | [] => .ok []
  | v :: rest => do
    let t ← text v
    let ts ← texts rest
    return t :: ts

/-- The texts of entries, in order. -/
def members : List (Value × Value) → Except JsonError (List String)
  | [] => .ok []
  | (k, v) :: rest => do
    let n ← key k
    let t ← text v
    let ms ← members rest
    return (n ++ ":" ++ t) :: ms

end

end Json

end Egress.Http
