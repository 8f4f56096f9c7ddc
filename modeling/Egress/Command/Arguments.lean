import Egress.Command.Likeness
import Egress.Destination.Builder
import Egress.Header

/-! # Arguments of the command line

The only command is `show`. Its options are given in any order, in a long form (`--uri x`,
`--uri=x`) or a short one (`-p k=v`, `-pk=v`), and short options can be joined (`-vH A:b`). Where
help is asked for, before the name of the command or behind it, nothing else counts as long as all
options can be read.

* `Setting`            an occurrence of an option
* `Invocation.of`      what a command line stands for: a help page, or settings of `show`
* `Request.ofSettings` what the settings ask for: the last value of an option counts, except that
  headers and properties add up -/

namespace Egress.Command

/-- The options with a value. -/
inductive ValueOption where
  | uri
  | instanceName
  | destinationName
  | fragmentName
  | tenantSubdomain
  | tenantId
  -- Whether the fragment may be missing.
  | fragmentOptional
  | tlsVersion
  | header
  | property
  deriving DecidableEq, Repr

namespace ValueOption

/-- The long form of an option. -/
def long : ValueOption → String
  | uri => "--uri"
  | instanceName => "--instance-name"
  | destinationName => "--destination-name"
  | fragmentName => "--fragment-name"
  | tenantSubdomain => "--tenant-subdomain"
  | tenantId => "--tenant-id"
  | fragmentOptional => "--fragment-optional"
  | tlsVersion => "--tls-version"
  | header => "--header"
  | property => "--property"

def all : List ValueOption :=
  [uri, instanceName, destinationName, fragmentName, tenantSubdomain, tenantId, fragmentOptional,
    tlsVersion, header, property]

theorem mem_all (o : ValueOption) : o ∈ all := by cases o <;> simp [all]

/-- The option with a long form. -/
def ofLong? (s : String) : Option ValueOption := all.find? (·.long == s)

/-- The option with a short form. -/
def ofShort? (c : Char) : Option ValueOption :=
  if c = 'H' then some header else if c = 'p' then some property else none

theorem ofLong?_long (o : ValueOption) : ofLong? o.long = some o := by cases o <;> decide

end ValueOption

/-- The long form of the option for all records, which takes no value. -/
def verboseLong : String := "--verbose"

/-- The short form of the option for all records. -/
def verboseShort : Char := 'v'

/-- The option for help, which takes no value either. -/
def helpLong : String := "--help"

/-- An occurrence of an option. -/
inductive Setting where
  | value (option : ValueOption) (text : String)
  -- All records are asked for.
  | verbose
  deriving DecidableEq, Repr

/-- What is wrong with arguments. -/
inductive UsageError where
  | noCommand
  | unknownCommand (name : String)
  | unknownOption (name : String)
  | missingValue (option : String)
  | surplusValue (option : String)
  -- There are arguments that belong to no option.
  | surplus (arguments : List String)
  | pair (option : ValueOption) (e : PairError)
  deriving DecidableEq, Repr

/-- The name of the command. -/
def showCommand : String := "show"

/-- The wording of an error. -/
def UsageError.message : UsageError → String
  | .noCommand => "Missing command."
  | .unknownCommand name =>
    "No such command " ++ Text.quoted name ++
      if alike showCommand name then ". Did you mean " ++ Text.quoted showCommand ++ "?" else "."
  | .unknownOption name => "No such option: " ++ name
  | .missingValue option => "Option " ++ Text.quoted option ++ " requires an argument."
  | .surplusValue option => "Option " ++ Text.quoted option ++ " does not take a value."
  | .surplus arguments =>
    "Got unexpected extra argument(s) (" ++ " ".intercalate arguments ++ ")"
  | .pair option e => "Invalid value for " ++ option.long ++ ": " ++ e.message

/-! ## Reading arguments -/

/-- What an argument stands for by itself. -/
inductive Reading where
  -- It belongs to no option.
  | plain
  -- It ends the options: all arguments after it belong to none.
  | ending
  | help
  | settings (list : List Setting)
  -- It gives settings and, last, an option whose value is the next argument. The option is named as
  -- it was spelled.
  | awaiting (list : List Setting) (option : ValueOption) (spelled : String)

/-- Reads joined short options. -/
def readShort (done : List Setting) : List Char → Except UsageError Reading
  | [] => .ok (.settings done)
  | c :: rest =>
    if c = verboseShort then readShort (done ++ [.verbose]) rest
    else match ValueOption.ofShort? c with
      | none => .error (.unknownOption (String.ofList ['-', c]))
      | some option =>
        if rest = [] then .ok (.awaiting done option (String.ofList ['-', c]))
        else .ok (.settings (done ++ [.value option (String.ofList rest)]))

/-- What an option without a value stands for. -/
def ofFlag? (name : String) : Option Reading :=
  if name = verboseLong then some (.settings [.verbose])
  else if name = helpLong then some .help
  else none

/-- The name in an argument, and the value behind the equals sign if there is one. -/
def nameAndValue (s : String) : String × Option String :=
  (String.ofList (s.toList.takeWhile (· ≠ '=')),
    (Text.cut '=' s.toList).map fun cut => String.ofList cut.2)

/-- Reads an argument that is no value. -/
def readArgument (s : String) : Except UsageError Reading :=
  let (name, value) := nameAndValue s
  match s.toList with
  | ['-', '-'] => .ok .ending
  | '-' :: c :: rest =>
    match ValueOption.ofLong? name, ofFlag? name, value with
    | some option, _, some value => .ok (.settings [.value option value])
    | some option, _, none => .ok (.awaiting [] option name)
    | none, some _, some _ => .error (.surplusValue name)
    | none, some reading, none => .ok reading
    | none, none, _ => if c = '-' then .error (.unknownOption name) else readShort [] (c :: rest)
  | _ => .ok .plain

/-- What arguments are read as. -/
structure Given where
  settings : List Setting := []
  -- The arguments that belong to no option.
  surplus : List String := []
  -- Whether help is asked for.
  help : Bool := false
  deriving DecidableEq, Repr

/-- Reads arguments. -/
def readArguments : List String → Except UsageError Given
  | [] => .ok {}
  | s :: rest =>
    match readArgument s with
    | .error e => .error e
    | .ok .plain => (readArguments rest).map fun g => { g with surplus := s :: g.surplus }
    | .ok .ending => .ok { surplus := rest }
    | .ok .help => (readArguments rest).map fun g => { g with help := true }
    | .ok (.settings list) =>
      (readArguments rest).map fun g => { g with settings := list ++ g.settings }
    | .ok (.awaiting list option spelled) =>
      match rest with
      | [] => .error (.missingValue spelled)
      | value :: rest => (readArguments rest).map fun g =>
          { g with settings := list ++ .value option value :: g.settings }

/-- The arguments behind the name of the command, unless help was asked for before. -/
def behindName (help : Bool) (arguments : List String) :
    Except UsageError (Option (List String)) :=
  match help, arguments with
  | true, _ => .ok none
  | false, [] => .error .noCommand
  | false, name :: rest =>
    if name = showCommand then .ok (some rest) else .error (.unknownCommand name)

/-- Reads arguments up to the name of the command, where help was asked for already or not. No other
option may stand there. -/
def readName (help : Bool) : List String → Except UsageError (Option (List String))
  | [] => behindName help []
  | s :: rest =>
    match s.toList with
    | ['-', '-'] => behindName help rest
    | '-' :: '-' :: _ =>
      let (name, value) := nameAndValue s
      if name ≠ helpLong then .error (.unknownOption name)
      else if value.isSome then .error (.surplusValue name)
      else readName true rest
    | '-' :: c :: _ => .error (.unknownOption (String.ofList ['-', c]))
    | _ => behindName help (s :: rest)

/-- The arguments of the command in a command line, unless that asks for help about the program. -/
def commandArguments (arguments : List String) : Except UsageError (Option (List String)) :=
  readName false arguments

/-- What there is help about. -/
inductive Topic where
  | program
  | command
  deriving DecidableEq, Repr

/-- What a command line stands for. -/
inductive Invocation where
  | help (topic : Topic)
  | settings (list : List Setting)
  deriving DecidableEq, Repr

namespace Invocation

/-- What the arguments of the command stand for. -/
def ofArguments (arguments : List String) : Except UsageError Invocation :=
  match readArguments arguments with
  | .error e => .error e
  | .ok ⟨_, _, true⟩ => .ok (.help .command)
  | .ok ⟨list, [], false⟩ => .ok (.settings list)
  | .ok ⟨_, surplus, false⟩ => .error (.surplus surplus)

/-- What a command line stands for. -/
def of (arguments : List String) : Except UsageError Invocation :=
  match commandArguments arguments with
  | .error e => .error e
  | .ok none => .ok (.help .program)
  | .ok (some arguments) => ofArguments arguments

end Invocation

/-! ## Requests -/

/-- What the settings of a command ask for. An option that is not given counts as empty. -/
structure Request where
  uri : String := ""
  instanceName : String := ""
  tlsVersion : String := ""
  -- The value of each header with a fixed name.
  fixed : FixedHeader → String := fun _ => ""
  -- The headers, each as it was written.
  headers : List String := []
  -- The properties, each as it was written.
  properties : List String := []
  -- Whether all records are asked for.
  verbose : Bool := false

namespace Request

/-- The request with another value for a header with a fixed name. -/
def setFixed (r : Request) (h : FixedHeader) (text : String) : Request :=
  { r with fixed := fun k => if k = h then text else r.fixed k }

/-- The request with one more setting. -/
def apply (r : Request) : Setting → Request
  | .verbose => { r with verbose := true }
  | .value .uri text => { r with uri := text }
  | .value .instanceName text => { r with instanceName := text }
  | .value .tlsVersion text => { r with tlsVersion := text }
  | .value .destinationName text => r.setFixed .destinationName text
  | .value .fragmentName text => r.setFixed .fragmentName text
  | .value .tenantSubdomain text => r.setFixed .tenantSubdomain text
  | .value .tenantId text => r.setFixed .tenantId text
  | .value .fragmentOptional text => r.setFixed .fragmentOptional text
  | .value .header text => { r with headers := r.headers ++ [text] }
  | .value .property text => { r with properties := r.properties ++ [text] }

/-- What settings ask for. -/
def ofSettings (settings : List Setting) : Request := settings.foldl apply {}

end Request

end Egress.Command
