import Egress.Url.Parse
import Egress.Value.Basic

/-! # Equality of values

Two numbers are equal when their sizes are, whatever their types, and a truth value counts as zero
or one. A member of an enumeration equals its text. A URL equals another, or a text, with the same
normal form; a text that is no URL makes the comparison fail. Containers of one kind are equal when
their contents are: sequences in order and of the same access, the others without regard to order
or access.

* `Value.eqv`      equality
* `Value.digest`   what equal values have in common; mutable containers have none
* `Value.sameKey`  whether two values name the same entry of a map -/

namespace Egress

/-- A value that cannot be an element of a set or a key of a map, by the word for its type. -/
structure Unhashable where
  typeName : String
  deriving DecidableEq, Repr

/-- The wording of a refusal. -/
def Unhashable.message (e : Unhashable) : String := "unhashable type: '" ++ e.typeName ++ "'"

namespace Value

def number? : Value → Option Binary64
  | .float x => some x
  | _ => none

/-- The integer that a value is, a truth value counting as zero or one. -/
def integer? : Value → Option Int
  | .bool b => some (if b then 1 else 0)
  | .int n => some n
  | _ => none

/-- Whether two values are numbers of the same size. -/
def eqNumber (a b : Value) : Bool :=
  match a.integer?, a.number?, b.integer?, b.number? with
  | some m, _, some n, _ => m == n
  | some m, _, _, some y => y.toInt? == some m
  | _, some x, some n, _ => x.toInt? == some n
  | _, some x, _, some y => x.eq y
  | _, _, _, _ => false

/-- Whether a text equals a value. -/
def eqText (s : String) (b : Value) : Except UrlError Bool :=
  match b with
  | .url u => (Url.parse s).map fun v => v.text == u.text
  | b => .ok (b.text? == some s)

/-- Whether two values are the same thing that is not a number. -/
def sameNan : Value → Value → Bool
  | .float (.nan p), .float (.nan q) => p != 0 && p == q
  | _, _ => false

/-! ## Digests -/

/-- The size of a number, reduced modulo `2 ^ 61 - 1`; -1 goes with -2. -/
def reduced (negative : Bool) (n : Nat) : Int :=
  let m : Nat := n % (Nat.pow 2 61 - 1)
  let r : Int := if negative then -m else m
  if r = -1 then -2 else r

def numberDigest : Binary64 → String
  | .finite negative m e =>
    let factor := Nat.pow 2 (if 0 ≤ e then e.toNat else (61 - (-e).toNat % 61) % 61)
    "#" ++ toString (reduced negative (m * factor))
  | .infinite negative => if negative then "#-314159" else "#314159"
  | .nan p => "nan" ++ toString p

/-- The digest of a text: the empty one goes with zero. -/
def textDigest (codes : List Nat) : String :=
  if codes = [] then "#0" else Text.quotedCodes codes

mutual

/-- What all values equal to a value have in common. -/
def digest : Value → Except Unhashable String
  | .null => .ok "none"
  | .bool b => .ok (if b then "#1" else "#0")
  | .int n => .ok ("#" ++ toString (reduced (n < 0) n.natAbs))
  | .float x => .ok (numberDigest x)
  | .text s => .ok (textDigest (s.toList.map Char.toNat))
  | .member m => .ok (textDigest (m.text.toList.map Char.toNat))
  | .bytes .frozen data => .ok (textDigest (data.map UInt8.toNat))
  | .seq .frozen items => (digests items).map fun ds => "(" ++ ",".intercalate ds ++ ")"
  | .set .frozen items =>
    (digests items).map fun ds =>
      "<" ++ ",".intercalate (ds.mergeSort fun a b => decide (a ≤ b)) ++ ">"
  | .url u => .ok (textDigest (u.text.toList.map Char.toNat))
  | .header name value => do
    let n ← name.digest
    let v ← value.digest
    return "(" ++ n ++ "," ++ v ++ ")"
  | .ref id => .ok ("@" ++ toString id)
  | .bytes .mutable _ => .error ⟨"bytearray"⟩
  | .seq .mutable _ => .error ⟨"list"⟩
  | .set .mutable _ => .error ⟨"set"⟩
  | .map .mutable _ => .error ⟨"dict"⟩
  | .map .frozen _ => .error ⟨"mappingproxy"⟩

/-- The digests of values, in order. -/
def digests : List Value → Except Unhashable (List String)
  | [] => .ok []
  | v :: rest => do
    let d ← v.digest
    let ds ← digests rest
    return d :: ds

end

/-- Whether two values can be hashed and have the same digest. -/
def sameDigest (a b : Value) : Bool :=
  match a.digest, b.digest with
  | .ok d, .ok e => d == e
  | _, _ => false

/-! ## Equality -/

/-- Whether the test succeeds on one of the values, tried in order. -/
def anyOf (test : Value → Except UrlError Bool) : List Value → Except UrlError Bool
  | [] => .ok false
  | v :: rest => (test v).bind fun found => if found then .ok true else anyOf test rest

/-- Whether the test succeeds on one of the entries, tried in order. -/
def anyEntry (test : Value × Value → Except UrlError Bool) :
    List (Value × Value) → Except UrlError Bool
  | [] => .ok false
  | e :: rest => (test e).bind fun found => if found then .ok true else anyEntry test rest

/-- The second test if the first succeeds. -/
def andThen (first : Except UrlError Bool) (second : Except UrlError Bool) :
    Except UrlError Bool :=
  first.bind fun found => if found then second else .ok false

mutual

/-- Equality of two values. -/
def eqv : Value → Value → Except UrlError Bool
  | .null, b => .ok (b matches .null)
  | .bool x, b => .ok (eqNumber (.bool x) b)
  | .int n, b => .ok (eqNumber (.int n) b)
  | .float x, b => .ok (eqNumber (.float x) b)
  | .text s, b => eqText s b
  | .member m, b => eqText m.text b
  | .bytes _ data, b => match b with
    | .bytes _ data' => .ok (data == data')
    | _ => .ok false
  | .seq access items, b => match b with
    | .seq access' items' =>
      if access = access' ∧ items.length = items'.length then eqvAll items items' else .ok false
    | _ => .ok false
  | .set _ items, b => match b with
    | .set _ items' => if items.length = items'.length then eachIn items items' else .ok false
    | _ => .ok false
  | .map _ entries, b => match b with
    | .map _ entries' =>
      if entries.length = entries'.length then eachEntryIn entries entries' else .ok false
    | _ => .ok false
  | .url u, b => match b with
    | .url v => .ok (u.text == v.text)
    | .text s => (Url.parse s).map fun v => u.text == v.text
    | .member m => (Url.parse m.text).map fun v => u.text == v.text
    | _ => .ok false
  | .header name value, b => match b with
    | .header name' value' =>
      andThen (if sameNan name name' then .ok true else eqv name name')
        (if sameNan value value' then .ok true else eqv value value')
    | _ => .ok false
  | .ref i, b => match b with
    | .ref j => .ok (i == j)
    | _ => .ok false

/-- Equality of sequences, element by element. -/
def eqvAll : List Value → List Value → Except UrlError Bool
  | [], _ => .ok true
  | _ :: _, [] => .ok false
  | a :: rest, b :: rest' =>
    andThen (if sameNan a b then .ok true else eqv a b) (eqvAll rest rest')

/-- Whether each of the values is an element of a set. -/
def eachIn : List Value → List Value → Except UrlError Bool
  | [], _ => .ok true
  | a :: rest, items =>
    andThen
      (anyOf (fun b => if !sameDigest a b then .ok false
        else if sameNan a b then .ok true else eqv a b) items)
      (eachIn rest items)

/-- Whether each of the entries is an entry of a map. -/
def eachEntryIn : List (Value × Value) → List (Value × Value) → Except UrlError Bool
  | [], _ => .ok true
  | (k, v) :: rest, entries =>
    andThen
      (anyEntry (fun e =>
        andThen (if !sameDigest k e.1 then .ok false
          else if sameNan k e.1 then .ok true else eqv k e.1)
        (if sameNan v e.2 then .ok true else eqv v e.2)) entries)
      (eachEntryIn rest entries)

end

/-- Whether two elements of a container count as one: they are the same or equal. -/
def eqvItem (a b : Value) : Except UrlError Bool :=
  if sameNan a b then .ok true else eqv a b

/-- Whether two values name the same entry of a map or the same element of a set. -/
def sameKey (a b : Value) : Bool :=
  sameDigest a b && (eqvItem a b matches .ok true)

/-! ## Sets and maps -/

/-- A list of elements with one more, unless it is there. -/
def addItem (items : List Value) (v : Value) : List Value :=
  if items.any (sameKey · v) then items else items ++ [v]

/-- Entries with a value put under a key; a key that is there keeps its spelling and its place. -/
def putEntry (entries : List (Value × Value)) (k v : Value) : List (Value × Value) :=
  if entries.any (sameKey ·.1 k) then
    entries.map fun e => if sameKey e.1 k then (e.1, v) else e
  else entries ++ [(k, v)]

/-- Entries put one after the other. -/
def putAll (entries : List (Value × Value)) : List (Value × Value) :=
  entries.foldl (fun m e => putEntry m e.1 e.2) []

/-- The value under a key. -/
def entry? (entries : List (Value × Value)) (k : Value) : Option Value :=
  (entries.find? (sameKey ·.1 k)).map (·.2)

/-- Entries without the one under a key. -/
def eraseEntry (entries : List (Value × Value)) (k : Value) : List (Value × Value) :=
  entries.filter (!sameKey ·.1 k)

/-- The elements of a list, each once, if all of them can be elements of a set. -/
def toItems (items : List Value) : Except Unhashable (List Value) :=
  (digests items).map fun _ => items.foldl addItem []

/-- Entries put one after the other, if all of their keys can be hashed. -/
def toEntries (entries : List (Value × Value)) : Except Unhashable (List (Value × Value)) :=
  (digests (entries.map (·.1))).map fun _ => putAll entries

end Value

end Egress
