import Egress.Value.Literal

/-! # TLS versions

The versions that a connection can be pinned to, and the settings of a connection. -/

namespace Egress

/-- A version of TLS. -/
inductive TlsVersion where
  -- Version 1.0.
  | v10
  -- Version 1.1.
  | v11
  -- Version 1.2.
  | v12
  -- Version 1.3.
  | v13
  deriving DecidableEq, Repr

namespace TlsVersion

/-- The name of a version, as it is configured. -/
def text : TlsVersion → String
  | v10 => "TLSv1"
  | v11 => "TLSv1.1"
  | v12 => "TLSv1.2"
  | v13 => "TLSv1.3"

/-- The versions, in rising order. -/
def all : List TlsVersion := [v10, v11, v12, v13]

theorem mem_all (v : TlsVersion) : v ∈ all := by cases v <;> simp [all]

/-- The version of a name. -/
def ofText? (s : String) : Option TlsVersion := all.find? fun v => v.text == s

theorem ofText?_text (v : TlsVersion) : ofText? v.text = some v := by cases v <;> decide

/-- The names of the versions, between commas. -/
def choices : String := ", ".intercalate (all.map text)

end TlsVersion

/-- Why no connection can be set up. -/
inductive TlsError where
  | unsupported (version : Value)
  -- The value cannot be looked up at all.
  | unhashable (e : Unhashable)

/-- The wording of an error. -/
def TlsError.message : TlsError → String
  | .unsupported v => "Unsupported TLS version " ++ v.literal ++ "; expected one of " ++
      TlsVersion.choices
  | .unhashable e => e.message

/-- The settings of a TLS connection. -/
structure TlsSettings where
  -- Whether the certificate of the other side is checked, and its host name with it.
  verify : Bool
  -- The only version to use.
  version : Option TlsVersion
  deriving DecidableEq, Repr

/-- The settings for a configured version, which may be absent. -/
def TlsSettings.ofValue (version : Value) (verify : Bool) : Except TlsError TlsSettings :=
  match version with
  | .null => .ok ⟨verify, none⟩
  | v => match v.digest with
    | .error e => .error (.unhashable e)
    | .ok _ => match v.text?.bind TlsVersion.ofText? with
      | some t => .ok ⟨verify, some t⟩
      | none => .error (.unsupported v)

end Egress
