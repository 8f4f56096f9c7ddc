/-! # Log records

What a computation reports beside its result: `Logged ε α` is a list of records together with an
error or a value. -/

namespace Egress

/-- How important a record is. -/
inductive Level where
  | debug
  | warning
  deriving DecidableEq, Repr

def Level.word : Level → String
  | .debug => "DEBUG"
  | .warning => "WARNING"

/-- The part of the library that writes a record. -/
inductive Source where
  | destination
  -- The derivation of proxy configurations.
  | proxy
  | http
  deriving DecidableEq, Repr

/-- The name under which a part writes. -/
def Source.name : Source → String
  | .destination => "proxy_destination.destination"
  | .proxy => "proxy_destination.proxy"
  | .http => "proxy_destination.http"

/-- A record. -/
structure Record where
  -- How important it is.
  level : Level
  -- Who writes it.
  source : Source
  message : String
  deriving DecidableEq, Repr

/-- An outcome with the records written on the way. -/
structure Logged (ε α : Type) where
  records : List Record
  result : Except ε α

namespace Logged

/-- An outcome without records. -/
def quiet (result : Except ε α) : Logged ε α := ⟨[], result⟩

/-- Goes on with the value, if there is one. -/
def bind (x : Logged ε α) (f : α → Logged ε β) : Logged ε β :=
  match x.result with
  | .error e => ⟨x.records, .error e⟩
  | .ok a => ⟨x.records ++ (f a).records, (f a).result⟩

/-- An outcome with its error in other terms. -/
def mapError (f : ε → δ) (x : Logged ε α) : Logged δ α :=
  ⟨x.records, match x.result with
    | .ok a => .ok a
    | .error e => .error (f e)⟩

@[simp] theorem records_quiet (r : Except ε α) : (quiet r).records = [] := rfl

@[simp] theorem result_quiet (r : Except ε α) : (quiet r).result = r := rfl

end Logged

end Egress
