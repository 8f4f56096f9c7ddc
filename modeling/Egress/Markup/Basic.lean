import Egress.Markup.Emoji
import Egress.Markup.Style

/-! # Markup

A text with markup holds tags in square brackets, which style what they enclose and are not shown
themselves. A backslash before a tag makes it plain text, and `:name:` stands for an emoji. A tag
for an event, such as `[@click=handler(1)]`, has parameters that are evaluated when it is closed.
Only the text that is shown is of interest here, and what keeps it from being shown.

* `tokens`         the plain pieces and the tags of a text
* `plain`          the text that is shown, or why the tags do not match
* `lookUpStyles`   what can go wrong when the text is drawn -/

namespace Egress.Markup

open Egress.Text

/-- What is wrong with the tags of a text. -/
inductive MarkupError where
  -- A closing tag whose style is not open, with its position.
  | unmatched (tag : List Char) (position : Nat)
  -- A closing tag for any style where none is open, with its position.
  | nothingOpen (position : Nat)
  -- A tag names a colour with a component that is no integer.
  | component (e : ConversionFault)
  -- The parameters of a tag for an event cannot be evaluated.
  | parameters (message : String)
  deriving DecidableEq, Repr

/-- The wording of an error. -/
def MarkupError.message : MarkupError → String
  | .unmatched tag position => "closing tag '[" ++ String.ofList tag ++ "]' at position " ++
      toString position ++ " doesn't match any open tag"
  | .nothingOpen position =>
    "closing tag '[/]' at position " ++ toString position ++ " has nothing to close"
  | .component e => e.message
  | .parameters message => message

/-! ## Emoji -/

/-- The selectors of presentations, by the words for them. -/
def presentations : List (String × Char) :=
  [("emoji", Char.ofNat 0xFE0F), ("text", Char.ofNat 0xFE0E)]

/-- What stands in a text for an emoji: the name of the emoji, a selector, and what follows. The
text begins after a colon; the next colon ends the name, and blanks may not come before it. -/
def cutEmoji? (s : List Char) : Option (List Char × List Char × List Char) :=
  let inside := s.takeWhile fun c => c ≠ ':' && !isBlank c
  match s.drop inside.length with
  | ':' :: rest =>
    let selected := presentations.findSome? fun (word, selector) =>
      let ending := '-' :: word.toList
      let name := inside.take (inside.length - ending.length)
      if name ++ ending = inside then some (name, [selector], rest) else none
    some (selected.getD (inside, [], rest))
  | _ => none

/-- A text with its emoji in place of their names, where `look` finds the emoji of a name. Text
that is the name of no emoji is kept, with the colons around it. The first `skip` characters are
passed over. -/
def replaceEmoji (look : List Char → Option (List Char)) (skip : Nat) : List Char → List Char
  | [] => []
  | c :: rest =>
    if 0 < skip then replaceEmoji look (skip - 1) rest
    else if c = ':' then
      match cutEmoji? rest with
      | none => c :: replaceEmoji look 0 rest
      | some (name, selector, after) =>
        let used := rest.length - after.length
        (match look (lower name) with
          | some e => e ++ selector
          | none => c :: rest.take used) ++ replaceEmoji look used rest
    else c :: replaceEmoji look 0 rest

/-! ## Tags -/

/-- A piece of a text with markup. -/
inductive Token where
  | text (s : List Char)
  | tag (inner : List Char) (position : Nat)
  deriving DecidableEq, Repr

/-- Whether a tag can begin with this character. -/
def beginsTag (c : Char) : Bool := ('a' ≤ c && c ≤ 'z') || c == '#' || c == '/' || c == '@'

/-- The inside of the tag that an opening bracket before this text begins, and what follows the
tag. The text holds no further opening bracket. -/
def cutTag? (s : List Char) : Option (List Char × List Char) :=
  match s with
  | [] => none
  | c :: _ =>
    if beginsTag c then
      match s.dropWhile (· ≠ ']') with
      | [] => none
      | _ :: after => some (s.takeWhile (· ≠ ']'), after)
    else none

/-- The tokens of a plain text and of the segments after it, which are separated by opening
brackets. The plain text begins at a position. -/
def tokensFrom (position : Nat) (plain : List Char) : List (List Char) → List Token
  | [] => [.text plain]
  | segment :: rest =>
    match cutTag? segment with
    | none => tokensFrom position (plain ++ '[' :: segment) rest
    | some (inner, after) =>
      let slashes := (plain.reverse.takeWhile (· = '\\')).length
      let kept := plain.take (plain.length - slashes)
      .text kept :: .text (List.replicate (slashes / 2) '\\') ::
        (if slashes % 2 = 1 then .text ('[' :: inner ++ [']'])
          else .tag inner (position + kept.length + 2 * (slashes / 2))) ::
        tokensFrom (position + plain.length + inner.length + 2) after rest

/-- The tokens of a text. -/
def tokens (s : List Char) : List Token :=
  match splitBy (· = '[') s with
  | [] => []
  | plain :: segments => tokensFrom 0 plain segments

/-! ## What is shown -/

/-- A text without the backslashes that stand directly before opening brackets. -/
def unescape : List Char → List Char
  | '\\' :: '[' :: rest => '[' :: unescape rest
  | c :: rest => c :: unescape rest
  | [] => []

/-- Whether a character is never shown: bell, backspace, vertical tab, form feed or carriage
return. -/
def isControl (c : Char) : Bool := [0x07, 0x08, 0x0B, 0x0C, 0x0D].contains c.toNat

/-- A text without the characters that are never shown. -/
def dropControls (s : List Char) : List Char := s.filter (!isControl ·)

/-- What is shown for a plain piece. -/
def shown (s : List Char) : List Char := dropControls (replaceEmoji Emoji.ofName? 0 (unescape s))

/-! ## Open tags -/

/-- A tag that opens a style, or an event. -/
structure Tag where
  name : List Char
  parameters : Option (List Char)
  deriving DecidableEq, Repr

namespace Tag

/-- The name of a tag and its parameters, which follow an equals sign. -/
def ofInner (inner : List Char) : Tag :=
  match cut '=' inner with
  | none => ⟨inner, none⟩
  | some (name, parameters) => ⟨name, some parameters⟩

/-- The canonical form of the name of a style. -/
def canonical (name : List Char) : Except MarkupError (List Char) :=
  (Style.canonical name).mapError .component

/-- The tag that is opened by what stands between brackets. -/
def opened (inner : List Char) : Except MarkupError Tag := do
  return { ofInner inner with name := ← canonical (ofInner inner).name }

/-- The text of the style of a tag. -/
def style (t : Tag) : List Char := t.parameters.elim t.name fun s => t.name ++ ' ' :: s

end Tag

/-- How parameters of tags are evaluated. -/
class Evaluation where
  /-- What is said of parameters that cannot be evaluated. -/
  fault? : List Char → Option String

section

variable [Evaluation]

/-- Evaluates the parameters of a tag for an event. Other tags have none to evaluate. -/
def Tag.evaluate (t : Tag) : Except MarkupError Unit :=
  match t.name, t.parameters with
  | '@' :: _, some (c :: rest) =>
    match Evaluation.fault? (c :: rest) with
    | some message => .error (.parameters message)
    | none => .ok ()
  | _, _ => .ok ()

/-- The open tags after a tag, the latest first. A closing tag closes the latest one, or the latest
one with a name. -/
def applyTag (opened : List Tag) (inner : List Char) (position : Nat) :
    Except MarkupError (List Tag) :=
  match (Tag.ofInner inner).name with
  | '/' :: name =>
    if trim name = [] then
      match opened with
      | [] => .error (.nothingOpen position)
      | closed :: rest => do
        closed.evaluate
        return rest
    else do
      let style ← Tag.canonical (trim name)
      match opened.find? (·.name = style) with
      | none => .error (.unmatched inner position)
      | some closed =>
        closed.evaluate
        return opened.eraseP (·.name = style)
  | _ => do return (← Tag.opened inner) :: opened

/-- What is shown for tokens, where some tags are open. -/
def render (opened : List Tag) : List Token → Except MarkupError (List Char)
  | [] => .ok []
  | .text s :: rest => do return shown s ++ (← render opened rest)
  | .tag inner position :: rest => do render (← applyTag opened inner position) rest

/-- The text that is shown for a text with markup. -/
def plain (s : List Char) : Except MarkupError (List Char) := render [] (tokens s)

end

/-- Looks up the style of a token, if it opens one. -/
def Token.lookUpStyle : Token → Except MarkupError Unit
  | .text _ => .ok ()
  | .tag inner _ =>
    if inner.head? = some '/' then .ok ()
    else do (Style.lookUp (← Tag.opened inner).style).mapError .component

/-- Looks up the styles of a text with markup, which is done to draw it. -/
def lookUpStyles (s : List Char) : Except MarkupError Unit := (tokens s).forM Token.lookUpStyle

end Egress.Markup
