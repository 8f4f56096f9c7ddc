import Egress.Property.Conversion

/-! # Property keys

A typed key is a name bound to the type its values are read at. Where a property is named, a typed
key or a plain name will do; a plain name may be any value.

* `PropertyKey.read`   the value read at the key's type, or a `PropertyError`
* `PropertyKey.url`, `PropertyKey.proxyUri`, …   the keys that a destination itself looks at -/

namespace Egress

/-- A property name bound to the type its values are read at. -/
structure PropertyKey where
  name : String
  type : PropertyType
  deriving DecidableEq, Repr

/-- A property whose value cannot be read at the type of a key. -/
structure PropertyError where
  key : PropertyKey
  -- What is wrong with the value.
  fault : TypeFault
  deriving DecidableEq, Repr

/-- The wording of an error. -/
def PropertyError.message (e : PropertyError) : String :=
  "Property " ++ Text.quoted e.key.name ++ " cannot be read as " ++ e.key.type.word ++ ": " ++
    e.fault.message

namespace PropertyKey

/-- The value read at the key's type. -/
def read (k : PropertyKey) (v : Value) : Except PropertyError Value :=
  match k.type.read v with
  | .ok v => .ok v
  | .error fault => .error ⟨k, fault⟩

def destinationName : PropertyKey := ⟨"Name", .text⟩

/-- The address that requests go to. -/
def url : PropertyKey := ⟨"URL", .text⟩

def tlsVersion : PropertyKey := ⟨"TLSVersion", .text⟩

/-- How the destination is reached. -/
def proxyType : PropertyKey := ⟨"ProxyType", .text⟩

/-- The address of the proxy. -/
def proxyUri : PropertyKey := ⟨"ProxyUri", .text⟩

def proxyHost : PropertyKey := ⟨"ProxyHost", .text⟩

def proxyPort : PropertyKey := ⟨"ProxyPort", .integer⟩

/-- The user name for the proxy. -/
def proxyUser : PropertyKey := ⟨"ProxyUser", .text⟩

def proxyPassword : PropertyKey := ⟨"ProxyPassword", .text⟩

end PropertyKey

/-- What names a property. -/
inductive PropertyName where
  | typed (key : PropertyKey)
  | plain (name : Value)

/-- The value under which a property is stored. -/
def PropertyName.value : PropertyName → Value
  | .typed key => .text key.name
  | .plain name => name

end Egress
