import Egress.Value.Equal

/-! # Values in messages

How a value is shown inside a message or a log line.

* `Value.literal`  the value as it would be written down
* `Value.display`  the same, but texts and URLs stand without quotes -/

namespace Egress

namespace Value

/-- Texts between commas. -/
def commas (items : List String) : String := ", ".intercalate items

mutual

/-- The value as it would be written down. -/
def literal : Value → String
  | .null => "None"
  | .bool b => if b then "True" else "False"
  | .int n => toString n
  | .float x => x.text
  | .text s => Text.quoted s
  | .member m => "<" ++ m.fullName ++ ": " ++ Text.quoted m.text ++ ">"
  | .bytes .frozen data => Text.quotedBytes data
  | .bytes .mutable data => "bytearray(" ++ Text.quotedBytes data ++ ")"
  | .seq .mutable items => "[" ++ commas (literals items) ++ "]"
  | .seq .frozen items =>
    "(" ++ commas (literals items) ++ (if items.length = 1 then ",)" else ")")
  | .set .mutable items =>
    if items.isEmpty then "set()" else "\x7b" ++ commas (literals items) ++ "\x7d"
  | .set .frozen items =>
    if items.isEmpty then "frozenset()" else "frozenset(\x7b" ++ commas (literals items) ++ "\x7d)"
  | .map .mutable entries => "\x7b" ++ commas (literalEntries entries) ++ "\x7d"
  | .map .frozen entries => "mappingproxy(\x7b" ++ commas (literalEntries entries) ++ "\x7d)"
  | .url u => u.display
  | .header name value => "Header(name=" ++ name.literal ++ ", value=" ++ value.literal ++ ")"
  | .ref _ => "<provider>"

/-- The values as they would be written down. -/
def literals : List Value → List String
  | [] => []
  | v :: rest => v.literal :: literals rest

/-- The entries as they would be written down. -/
def literalEntries : List (Value × Value) → List String
  | [] => []
  | (k, v) :: rest => (k.literal ++ ": " ++ v.literal) :: literalEntries rest

end

/-- The value as it stands in running text. -/
def display : Value → String
  | .text s => s
  | .member m => m.fullName
  | .url u => u.text
  | .map .frozen entries => "\x7b" ++ commas (literalEntries entries) ++ "\x7d"
  | v => v.literal

end Value

end Egress
