import Egress.Number.Shortest
import Egress.Url.Basic

/-! # Values

The values that properties and headers hold. A container is mutable or frozen; apart from that a
list and a tuple, a set and a frozen set, a dictionary and a read-only mapping, or a byte array and
a byte string are the same kind of container.

* `Value`          the values
* `Value.freeze`   the same value with every container frozen, at every depth outside headers
* `Value.typeName` the word for the type of a value -/

namespace Egress

/-- How a destination is reached: over the open network, or through a connector. -/
inductive ProxyType where
  -- Over the open network.
  | internet
  -- Through a connector in a private network.
  | onPremise
  deriving DecidableEq, Repr

/-- How requests are authenticated. -/
inductive AuthenticationType where
  | noAuthentication
  -- By user name and password.
  | basicAuthentication
  | oauth2ClientCredentials
  deriving DecidableEq, Repr

def ProxyType.text : ProxyType → String
  | .internet => "Internet"
  | .onPremise => "OnPremise"

def AuthenticationType.text : AuthenticationType → String
  | .noAuthentication => "NoAuthentication"
  | .basicAuthentication => "BasicAuthentication"
  | .oauth2ClientCredentials => "OAuth2ClientCredentials"

/-- A member of an enumeration, which is also a text. -/
inductive Member where
  | proxy (t : ProxyType)
  | authentication (t : AuthenticationType)
  deriving DecidableEq, Repr

namespace Member

def text : Member → String
  | proxy t => t.text
  | authentication t => t.text

/-- The name of its enumeration. -/
def enumeration : Member → String
  | proxy _ => "ProxyType"
  | authentication _ => "AuthenticationType"

/-- Its name in the enumeration. -/
def name : Member → String
  | proxy .internet => "INTERNET"
  | proxy .onPremise => "ON_PREMISE"
  | authentication .noAuthentication => "NO_AUTHENTICATION"
  | authentication .basicAuthentication => "BASIC_AUTHENTICATION"
  | authentication .oauth2ClientCredentials => "OAUTH2_CLIENT_CREDENTIALS"

/-- Its name with that of its enumeration. -/
def fullName (m : Member) : String := m.enumeration ++ "." ++ m.name

def all : List Member :=
  [proxy .internet, proxy .onPremise, authentication .noAuthentication,
    authentication .basicAuthentication, authentication .oauth2ClientCredentials]

theorem mem_all (m : Member) : m ∈ all := by
  rcases m with (_ | _) | (_ | _ | _) <;> simp [all]

end Member

/-- Whether a container can be changed after it was made. -/
inductive Access where
  -- It can be changed.
  | mutable
  | frozen
  deriving DecidableEq, Repr

/-- A value of a property or a header. -/
inductive Value where
  | null
  -- A truth value.
  | bool (b : Bool)
  | int (n : Int)
  -- A floating-point number.
  | float (x : Binary64)
  | text (s : String)
  | member (m : Member)
  | bytes (access : Access) (data : List UInt8)
  | seq (access : Access) (items : List Value)
  -- Values without order, none twice.
  | set (access : Access) (items : List Value)
  -- Values under keys, none twice, in the order of their insertion.
  | map (access : Access) (entries : List (Value × Value))
  | url (u : Url)
  | header (name value : Value)
  -- Something known by its identity only: a container that may still change, or an object.
  | ref (id : Nat)
  deriving Inhabited, Repr

namespace Value

mutual

/-- The value with every container frozen. -/
def freeze : Value → Value
  | .map _ entries => .map .frozen (freezeEntries entries)
  | .seq _ items => .seq .frozen (freezeAll items)
  | .set _ items => .set .frozen (freezeAll items)
  | .bytes _ data => .bytes .frozen data
  | v => v

/-- The values with every container frozen. -/
def freezeAll : List Value → List Value
  | [] => []
  | v :: rest => v.freeze :: freezeAll rest

/-- The entries with every container among their values frozen. -/
def freezeEntries : List (Value × Value) → List (Value × Value)
  | [] => []
  | (k, v) :: rest => (k, v.freeze) :: freezeEntries rest

end

theorem freezeAll_eq_map (items : List Value) : freezeAll items = items.map freeze := by
  induction items with
  | nil => rfl
  | cons v rest ih => simp [freezeAll, ih]

theorem freezeEntries_eq_map (entries : List (Value × Value)) :
    freezeEntries entries = entries.map fun e => (e.1, e.2.freeze) := by
  induction entries with
  | nil => rfl
  | cons e rest ih => obtain ⟨k, v⟩ := e; simp [freezeEntries, ih]

/-- The word for the type of a value. -/
def typeName : Value → String
  | .null => "NoneType"
  | .bool _ => "bool"
  | .int _ => "int"
  | .float _ => "float"
  | .text _ => "str"
  | .member m => m.enumeration
  | .bytes .frozen _ => "bytes"
  | .bytes .mutable _ => "bytearray"
  | .seq .mutable _ => "list"
  | .seq .frozen _ => "tuple"
  | .set .mutable _ => "set"
  | .set .frozen _ => "frozenset"
  | .map .mutable _ => "dict"
  | .map .frozen _ => "mappingproxy"
  | .url _ => "URL"
  | .header .. => "Header"
  | .ref _ => "object"

def text? : Value → Option String
  | .text s => some s
  | .member m => some m.text
  | _ => none

/-- The entries of a map, none of anything else. -/
def entries : Value → List (Value × Value)
  | .map _ entries => entries
  | _ => []

/-- A map with texts as keys. -/
def ofTexts (entries : List (String × Value)) : Value :=
  .map .mutable (entries.map fun e => (.text e.1, e.2))

end Value

end Egress
