import Egress.Text.Cut
import Egress.Text.Quoted

/-! # Headers

A header is a name with a value. `Header.ofLine` reads the form `Name: value`, as written on a
command line. -/

namespace Egress

/-- A header with its name and value as texts. -/
structure Header where
  name : String
  value : String
  deriving DecidableEq, Repr

/-- The texts that are not a pair `left sep right`: the text and the form that it should have. -/
inductive PairError where
  | header (raw : String)
  | property (raw : String)
  deriving DecidableEq, Repr

/-- The wording of a refusal. -/
def PairError.message : PairError → String
  | .header raw => "Expected 'Name: value', got " ++ Text.quoted raw
  | .property raw => "Expected 'key=value', got " ++ Text.quoted raw

/-- Reads `Name: value`: the name is what stands before the first colon, both sides are trimmed,
and the name is not empty. -/
def Header.ofLine (raw : String) : Except PairError Header :=
  match Text.cut ':' raw.toList with
  | some (name, value) =>
    if Text.trim name = [] then .error (.header raw)
    else .ok ⟨String.ofList (Text.trim name), String.ofList (Text.trim value)⟩
  | none => .error (.header raw)

/-- A property assignment: a key with a text. -/
structure Assignment where
  key : String
  value : String
  deriving DecidableEq, Repr

/-- Reads `key=value`: the key is what stands before the first equals sign, trimmed and not empty;
the value is all that follows. -/
def Assignment.ofText (raw : String) : Except PairError Assignment :=
  match Text.cut '=' raw.toList with
  | some (key, value) =>
    if Text.trim key = [] then .error (.property raw)
    else .ok ⟨String.ofList (Text.trim key), String.ofList value⟩
  | none => .error (.property raw)

end Egress
