import Egress.Text.Cut
import Egress.Text.LetterCase

/-! # Constants

A constant is a number, a text, a string of bytes, a truth value, nothing, an ellipsis, or a tuple,
a set or a dictionary of constants; tuples stand in parentheses or alone, sets and dictionaries in
braces. There are no lists, because square brackets cannot stand where constants are read.

A text is read character by character into symbols, and these with a stack of open brackets.

* `symbols`      the symbols of a text
* `isConstant`   whether a text is a constant -/

namespace Egress.Markup.Constant

open Egress.Text

/-! ## Symbols -/

inductive Symbol where
  -- A parenthesis or a brace.
  | opening (c : Char)
  | closing (c : Char)
  | comma
  | colon
  -- A plus or a minus.
  | sign
  | newline
  | number (imaginary : Bool)
  | text (bytes : Bool)
  -- A truth value, nothing, or an ellipsis.
  | single
  -- The name of the empty set, which is called for it.
  | emptySet
  deriving DecidableEq, Repr

/-- Digits, with single low lines between them. -/
def areDigits (isDigit : Char → Bool) (s : List Char) : Bool :=
  (splitBy (· = '_') s).all fun piece => piece ≠ [] && piece.all isDigit

/-- The number of digits that a decimal integer can have. -/
def maxDigits : Nat := 4300

/-- Whether a text is a decimal integer: zero, or a number without leading zeros. -/
def isDecimal (s : List Char) : Bool :=
  areDigits Char.isDigit s && (s.head? ≠ some '0' || s.all fun c => c = '0' || c = '_') &&
    (s.filter (· ≠ '_')).length ≤ maxDigits

/-- Whether digits in a base follow the letter for it. -/
def isBased (s : List Char) : Bool :=
  let digits (isDigit : Char → Bool) (s : List Char) : Bool :=
    areDigits isDigit (if s.head? = some '_' then s.drop 1 else s)
  match s with
  | '0' :: 'x' :: s => digits (fun c => c.isDigit || ('a' ≤ c && c ≤ 'f')) s
  | '0' :: 'o' :: s => digits (fun c => '0' ≤ c && c ≤ '7') s
  | '0' :: 'b' :: s => digits (fun c => c = '0' || c = '1') s
  | _ => false

/-- Whether a text is a number with a fraction or an exponent, or digits alone. -/
def isFloating (s : List Char) : Bool :=
  let (mantissa, exponent) := match cut 'e' s with
    | none => (s, none)
    | some (mantissa, exponent) => (mantissa, some exponent)
  (match cut '.' mantissa with
    | none => areDigits Char.isDigit mantissa
    | some (whole, fraction) => (whole ≠ [] || fraction ≠ []) &&
      [whole, fraction].all fun digits => digits = [] || areDigits Char.isDigit digits) &&
  (match exponent with
    | none => true
    | some ('+' :: digits) => areDigits Char.isDigit digits
    | some ('-' :: digits) => areDigits Char.isDigit digits
    | some digits => areDigits Char.isDigit digits)

/-- The symbol that a word stands for. -/
def Symbol.ofWord? (s : List Char) : Option Symbol :=
  let small := lower s
  if ["True", "False", "None", "..."].any (·.toList = s) then some .single
  else if s = "set".toList then some .emptySet
  else if small.getLast? = some 'j' ∧ isFloating small.dropLast then some (.number true)
  else if isDecimal small ∨ isBased small then some (.number false)
  -- digits alone may not begin with a zero, unlike those with a fraction or an exponent
  else if small.any (fun c => c = '.' || c = 'e') ∧ isFloating small then some (.number false)
  else none

/-! ## Reading characters -/

/-- The quotes around a text. -/
structure Quote where
  char : Char
  -- Backslashes stand for themselves.
  raw : Bool
  bytes : Bool
  -- There are three on either side.
  triple : Bool

/-- What is being read between quotes. -/
inductive Inside where
  -- The opening quotes, so many of which are read.
  | opened (count : Nat)
  -- The text, behind so many quotes.
  | body (quotes : Nat)
  -- What follows a backslash.
  | escape
  -- The number of a character, of which so many digits are left.
  | digits (left value : Nat)
  -- The name of a character, whose brace is open or not.
  | name (opened : Bool)

/-- What is being read. -/
inductive Mode where
  | between
  | comment
  -- A backslash, which is to be followed by the end of the line.
  | joined
  -- A word, the last character first.
  | word (s : List Char)
  | quoted (quote : Quote) (inside : Inside)

/-- The state of reading. -/
structure Reader where
  mode : Mode := .between
  -- The symbols that are read, the latest first.
  symbols : List Symbol := []

/-- The kind of text that a word before quotes announces: whether it is raw, and whether it is
bytes. -/
def prefix? (s : List Char) : Option (Bool × Bool) :=
  [("", false, false), ("u", false, false), ("r", true, false), ("b", false, true),
    ("br", true, true), ("rb", true, true)].findSome? fun (word, kind) =>
      if lower s = word.toList then some kind else none

def isQuote (c : Char) : Bool := c == '\'' || c == '"'

/-- A character of a word or a number. -/
def isWordPart (c : Char) : Bool := c.isAlphanum || c == '_' || c == '.' || 0x80 ≤ c.toNat

/-- Whether a sign behind this word, which is given backwards, belongs to an exponent. -/
def awaitsExponent (s : List Char) : Bool :=
  let word := lower s.reverse
  word.getLast? = some 'e' && word.head?.any (fun c => c.isDigit || c = '.') &&
    word.take 2 ≠ ['0', 'x']

namespace Reader

/-- Something else is read from now on. -/
def turn (r : Reader) (mode : Mode) : Option Reader := some { r with mode := mode }

/-- A symbol was read. -/
def push (r : Reader) (symbol : Symbol) : Reader := ⟨.between, symbol :: r.symbols⟩

/-- Reads a character between symbols. -/
def start (r : Reader) (c : Char) : Option Reader :=
  if c = ' ' ∨ c = '\t' ∨ c.toNat = 0x0C then some r
  else if c = '\n' then r.push .newline
  else if c = '#' then r.turn .comment
  else if c = '\\' then r.turn .joined
  else if isQuote c then r.turn (.quoted ⟨c, false, false, false⟩ (.opened 1))
  else if c = '(' ∨ c = '\x7b' then r.push (.opening c)
  else if c = ')' ∨ c = '\x7d' then r.push (.closing c)
  else if c = ',' then r.push .comma
  else if c = ':' then r.push .colon
  else if c = '+' ∨ c = '-' then r.push .sign
  else if isWordPart c then r.turn (.word [c])
  else none

/-- Reads a character behind the characters of a word. -/
def stepWord (r : Reader) (s : List Char) (c : Char) : Option Reader :=
  if isWordPart c ∨ ((c = '+' ∨ c = '-') ∧ awaitsExponent s) then r.turn (.word (c :: s))
  else if isQuote c then do
    let (raw, bytes) ← prefix? s.reverse
    r.turn (.quoted ⟨c, raw, bytes, false⟩ (.opened 1))
  else do (r.push (← Symbol.ofWord? s.reverse)).start c

/-- Reads a character of a text behind so many quotes. -/
def stepBody (r : Reader) (quote : Quote) (quotes : Nat) (c : Char) : Option Reader :=
  if c = '\\' then r.turn (.quoted quote .escape)
  else if c = quote.char then
    if quote.triple ∧ quotes < 2 then r.turn (.quoted quote (.body (quotes + 1)))
    else r.push (.text quote.bytes)
  else if c = '\n' ∧ !quote.triple then none
  else r.turn (.quoted quote (.body 0))

/-- What is read behind a backslash and this character. -/
def afterEscape (quote : Quote) (c : Char) : Inside :=
  if quote.raw then .body 0
  else if c = 'x' then .digits 2 0
  else if quote.bytes then .body 0
  else if c = 'u' then .digits 4 0
  else if c = 'U' then .digits 8 0
  else if c = 'N' then .name false
  else .body 0

/-- Reads a character between quotes. -/
def stepQuoted (r : Reader) (quote : Quote) (c : Char) : Inside → Option Reader
  | .opened count =>
    if c ≠ quote.char then
      if count = 1 then r.stepBody quote 0 c else (r.push (.text quote.bytes)).start c
    else if count = 1 then r.turn (.quoted quote (.opened 2))
    else r.turn (.quoted { quote with triple := true } (.body 0))
  | .body quotes => r.stepBody quote quotes c
  | .escape => r.turn (.quoted quote (afterEscape quote c))
  | .digits left value => do
    let value := 16 * value + (← hexValue? c)
    if 1 < left then r.turn (.quoted quote (.digits (left - 1) value))
    else if value < 0x110000 then r.turn (.quoted quote (.body 0))
    else none
  -- the names of characters are not looked up
  | .name opened =>
    if !opened then if c = '\x7b' then r.turn (.quoted quote (.name true)) else none
    else if c = '\x7d' then r.turn (.quoted quote (.body 0))
    else if isQuote c ∨ c = '\\' ∨ c = '\n' then none
    else some r

/-- Reads a character. -/
def step (r : Reader) (c : Char) : Option Reader :=
  match r.mode with
  | .between => r.start c
  | .comment => if c = '\n' then r.push .newline else some r
  | .joined => if c = '\n' then r.turn .between else none
  | .word s => r.stepWord s c
  | .quoted quote inside =>
    -- bytes are written in ASCII, and no other symbol behind them begins with anything else
    if quote.bytes ∧ 0x80 ≤ c.toNat then none else r.stepQuoted quote c inside

/-- The symbols that are read at the end of a text. -/
def finish (r : Reader) : Option (List Symbol) :=
  match r.mode with
  | .between | .comment => some r.symbols.reverse
  | .word s => do return (r.push (← Symbol.ofWord? s.reverse)).symbols.reverse
  | .quoted quote (.opened 2) => some (r.push (.text quote.bytes)).symbols.reverse
  | .joined | .quoted .. => none

end Reader

/-- A text whose lines end in line feeds. -/
def unifyLines : List Char → List Char
  | '\r' :: '\n' :: rest => '\n' :: unifyLines rest
  | '\r' :: rest => '\n' :: unifyLines rest
  | c :: rest => c :: unifyLines rest
  | [] => []

/-- The symbols of a text. -/
def symbols (s : List Char) : Option (List Symbol) :=
  if s.any (·.toNat = 0) then none
  else do (← (unifyLines s).foldlM Reader.step {}).finish

/-! ## Reading symbols -/

/-- What is read of an item, as far as that matters for what may follow. -/
inductive Item where
  -- A number without a sign.
  | real
  | imaginary
  -- A number behind a sign.
  | signed
  -- A text, which can be continued by another one.
  | text (bytes : Bool)
  -- The name of the empty set.
  | emptySet
  -- Anything else, which can be a member of a set or not.
  | other (hashable : Bool)

def Item.hashable : Item → Bool
  | .other hashable => hashable
  | _ => true

/-- What stands before the place where reading is. -/
inductive Place where
  -- Nothing of an item.
  | none
  | sign
  -- A number and a sign, which an imaginary number is to follow.
  | sum
  | item (i : Item)

/-- What is enclosed. -/
inductive Bracket where
  -- The whole text.
  | whole
  | group
  -- The arguments behind a name.
  | call
  | brace
  deriving DecidableEq

/-- An open bracket, and what is read behind it. -/
structure Frame where
  bracket : Bracket
  place : Place := .none
  -- There is a comma.
  comma : Bool := false
  -- All items can be members of a set.
  hashable : Bool := true
  -- In braces with items, whether these are pairs.
  pairs : Option Bool := none
  -- In braces, whether a key waits for its value.
  keyed : Bool := false

namespace Frame

/-- An item was read. -/
def supply (f : Frame) (i : Item) : Option Frame :=
  let put (i : Item) : Option Frame := some { f with place := .item i }
  match f.place, i with
  | .none, i => put i
  | .sign, .real => put .signed
  | .sign, .imaginary => put (.other true)
  | .sum, .imaginary => put (.other true)
  | .item (.text bytes), .text more => if bytes = more then some f else none
  | _, _ => none

/-- A member of a set, or a key, was read. -/
def member (f : Frame) (pairs : Bool) (i : Item) : Option Frame :=
  if f.keyed ∨ f.pairs = some !pairs ∨ !i.hashable then none
  else some { f with place := .none, pairs := some pairs, keyed := pairs }

/-- An item is complete. -/
def complete (f : Frame) : Option Frame :=
  match f.bracket, f.place with
  | _, .item .emptySet => none
  | .call, .item _ => none
  | .brace, .item i =>
    if f.keyed then some { f with place := .none, keyed := false } else f.member false i
  | _, .item i => some { f with place := .none, hashable := f.hashable && i.hashable }
  | _, _ => none

/-- What stands between brackets that are closed now. -/
def close (f : Frame) (c : Char) : Option Item :=
  match f.bracket, c, f.place with
  | .call, ')', .none => some (.other false)
  | .group, ')', .none => some (.other f.hashable)
  | .group, ')', .item i =>
    if f.comma then f.complete.map fun f => .other f.hashable
    else match i with
      | .text _ => some (.other true)
      | i => some i
  | .brace, '\x7d', .none => if f.keyed then none else some (.other false)
  | .brace, '\x7d', .item _ => do
    if (← f.complete).keyed then none else some (.other false)
  | _, _, _ => none

end Frame

/-- The state of reading symbols. -/
structure Stack where
  -- The innermost bracket, and those around it.
  inner : Frame := { bracket := .whole }
  outer : List Frame := []
  -- The line with the constant has ended.
  ended : Bool := false

/-- The number of brackets that can be open. -/
def maxDepth : Nat := 200

namespace Stack

/-- A bracket was opened. -/
def enter (s : Stack) (bracket : Bracket) : Option Stack :=
  if s.outer.length = maxDepth then none
  else some { s with inner := { bracket := bracket }, outer := s.inner :: s.outer }

/-- A bracket was closed. -/
def leave (s : Stack) (c : Char) : Option Stack :=
  match s.outer with
  | [] => none
  | f :: outer => do
    let i ← s.inner.close c
    -- the empty set stands in place of its name
    let f := if s.inner.bracket = .call then { f with place := .none } else f
    return { s with inner := ← f.supply i, outer := outer }

/-- Reads a symbol. -/
def step (s : Stack) (symbol : Symbol) : Option Stack :=
  let within (f : Option Frame) : Option Stack := f.map fun f => { s with inner := f }
  if s.ended ∧ symbol ≠ .newline then none
  else match symbol, s.inner.place with
    | .number imaginary, _ => within (s.inner.supply (if imaginary then .imaginary else .real))
    | .text bytes, _ => within (s.inner.supply (.text bytes))
    | .single, _ => within (s.inner.supply (.other true))
    | .emptySet, _ => within (s.inner.supply .emptySet)
    | .opening c, .item .emptySet => if c = '(' then s.enter .call else none
    | .opening _, .item _ => none
    | .opening c, _ => s.enter (if c = '(' then .group else .brace)
    | .closing c, _ => s.leave c
    | .comma, _ => within (s.inner.complete.map fun f => { f with comma := true })
    | .colon, .item .emptySet => none
    | .colon, .item i => if s.inner.bracket = .brace then within (s.inner.member true i) else none
    | .colon, _ => none
    | .sign, .none => within (some { s.inner with place := .sign })
    | .sign, .item .real => within (some { s.inner with place := .sum })
    | .sign, .item .signed => within (some { s.inner with place := .sum })
    | .sign, _ => none
    | .newline, place =>
      match s.outer, place with
      | [], .item _ => some { s with ended := true }
      | [], .none => some { s with ended := s.inner.comma }
      | [], _ => none
      | _, _ => some s

/-- Whether there is a constant at the end of a text. -/
def isComplete (s : Stack) : Bool :=
  match s.outer, s.inner.place with
  | [], .none => s.inner.comma
  | [], _ => s.inner.complete.isSome
  | _, _ => false

end Stack

end Constant

/-- Whether a text is a constant. -/
def isConstant (s : List Char) : Bool :=
  ((Constant.symbols s).bind fun symbols => symbols.foldlM Constant.Stack.step {}).any
    Constant.Stack.isComplete

end Egress.Markup
