import Egress.Session.State

/-! # Expressions

The arguments of the steps of a session. Evaluating an expression makes a new object of every
container that can change, of every provider and of every other thing that is known by its identity.

* `Expr.eval`   the value of an expression -/

namespace Egress.Session

/-- An expression. -/
inductive Expr where
  -- A value without containers that can change.
  | value (v : Value)
  -- A value that is no number.
  | nan
  | var (name : String)
  -- Bytes that can change.
  | byteArray (data : List UInt8)
  | seq (access : Access) (items : List Expr)
  | set (access : Access) (items : List Expr)
  | map (entries : List (Expr × Expr))
  | header (name value : Expr)
  | url (text : String)
  | key (k : PropertyKey)
  | conversion (f : Conversion)
  | provider (headers : List (Expr × Expr)) (rest : Provider)
  -- The settings of a client, with the fields that are given.
  | settings (timeout verifyTls followRedirects extraHeaders : Option Expr)
  deriving Inhabited

/-- The value that a name is bound to. -/
def lookUp (name : String) : Action Value := do
  match (← get).names.find? (·.1 == name) with
  | some binding => return binding.2
  | none => throw (.unbound name)

mutual

def Expr.eval : Expr → Action Value
  | .value v => return v
  | .nan => do
    modify fun s => { s with nans := s.nans + 1 }
    return .float (.nan (← get).nans)
  | .var name => lookUp name
  | .byteArray data => add (.container (.bytes .mutable data))
  | .seq access items => do
    let items ← evalAll items
    if access = .mutable then add (.container (.seq access items)) else return .seq access items
  | .set access items => do
    let items ← evalAll items
    let items ← orFail .unhashable (Value.toItems (items.map (← get).resolve))
    if access = .mutable then add (.container (.set access items)) else return .set access items
  | .map entries => do
    let entries ← evalEntries entries
    let s ← get
    let entries ← orFail .unhashable (Value.toEntries (entries.map fun e => (s.resolve e.1, e.2)))
    add (.container (.map .mutable entries))
  | .header name content => do
    let name ← name.eval
    let content ← content.eval
    return .header name content
  | .url text => do return .url (← orFail .url (Url.parse text))
  | .key k => add (.key k)
  | .conversion f => add (.conversion f)
  | .provider headers rest => do
    let headers ← evalEntries headers
    let s ← get
    add (.provider { rest with headers := headers.map fun h => (s.resolve h.1, s.resolve h.2) })
  | .settings timeout verifyTls followRedirects extraHeaders => do
    let default : Settings := {}
    let timeout ← evalOr default.timeout timeout
    let verifyTls ← evalOr default.verifyTls verifyTls
    let followRedirects ← evalOr default.followRedirects followRedirects
    let extraHeaders ← evalOr default.extraHeaders extraHeaders
    add (.settings ⟨timeout, verifyTls, followRedirects, ← resolve extraHeaders⟩)

def Expr.evalOr (default : Value) : Option Expr → Action Value
  | none => return default
  | some e => e.eval

/-- The values of expressions, from left to right. -/
def Expr.evalAll : List Expr → Action (List Value)
  | [] => return []
  | e :: rest => do
    let v ← e.eval
    let rest ← evalAll rest
    return v :: rest

/-- The keys and values of entries, from left to right. -/
def Expr.evalEntries : List (Expr × Expr) → Action (List (Value × Value))
  | [] => return []
  | (k, e) :: rest => do
    let k ← k.eval
    let v ← e.eval
    let rest ← evalEntries rest
    return (k, v) :: rest

end

end Egress.Session
