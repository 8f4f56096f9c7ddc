import Egress.Command.Arguments
import Egress.Markup.Parameters
import Egress.Report.Basic

/-! # The command `show`

The command builds a destination from its settings and prints the report of it, or the error that
stands in the way, on a page of eighty cells.

* `Request.builder`   the builder that a request describes
* `Request.perform`   what the command does for a request
* `run`               what a command line does -/

namespace Egress

namespace Record

/-- A record as a line of a log, with the time at which it was written. -/
def line (time : String) (r : Record) : String :=
  time ++ " | " ++ r.level.word ++ " | " ++ r.source.name ++ " | " ++ r.message

end Record

namespace Command

/-- The width of the page that the command prints on. -/
def pageWidth : Nat := 80

/-- What the command does: it prints, and writes records. -/
structure Outcome where
  printed : Printed
  records : List Record
  deriving DecidableEq, Repr

/-- What can keep the command from printing anything. -/
inductive CommandError where
  -- The arguments are wrong.
  | usage (e : UsageError)
  -- The report breaks off.
  | report (e : ReportError)

/-- The wording of an error. -/
def CommandError.message : CommandError → String
  | .usage e => e.message
  | .report e => e.message

namespace Request

/-- The properties that are written as `key=value`, or the first one that is not. -/
def assignments (r : Request) : Except UsageError (List Assignment) :=
  r.properties.mapM fun raw => match Assignment.ofText raw with
    | .ok a => .ok a
    | .error e => .error (.pair .property e)

/-- The headers that are written as `Name: value`, or the first one that is not. -/
def headerLines (r : Request) : Except UsageError (List Header) :=
  r.headers.mapM fun raw => match Header.ofLine raw with
    | .ok h => .ok h
    | .error e => .error (.pair .header e)

/-- A builder with the properties of a request: those that are written out, then the address, then
the address of the instance, then the TLS version, each of the latter if it is given. -/
def draft (r : Request) (assignments : List Assignment) : Draft :=
  let set (d : Draft) (name text : String) : Draft := d.put (.text name) (.text text)
  let setGiven (d : Draft) (key : PropertyKey) (given value : String) : Draft :=
    if given = "" then d else set d key.name value
  let d := assignments.foldl (fun d a => set d a.key a.value) {}
  let d := setGiven d .url r.uri r.uri
  let d := setGiven d .url r.instanceName (instanceAddress r.instanceName)
  setGiven d .tlsVersion r.tlsVersion r.tlsVersion

/-- The headers with fixed names, in the order in which they are added. -/
def fixedHeaders : List FixedHeader :=
  [.destinationName, .fragmentName, .tenantSubdomain, .tenantId, .fragmentOptional]

/-- The headers of a request: those that are written out, and then those with fixed names that are
given. -/
def allHeaders (r : Request) (headers : List Header) : List Header :=
  headers ++ fixedHeaders.filterMap fun h =>
    if r.fixed h = "" then none else some ⟨h.name, r.fixed h⟩

/-- The builder that a request describes. -/
def builder (r : Request) : Except UsageError Builder := do
  let assignments ← r.assignments
  let headers ← r.headerLines
  return { draft := r.draft assignments
           headers := (r.allHeaders headers).map fun h => .header (.text h.name) (.text h.value) }

/-- The records that a request asks for: all of them, or the warnings only. -/
def keep (r : Request) (records : List Record) : List Record :=
  records.filter fun record => r.verbose || record.level = .warning

/-- What the command does for a request. -/
def perform [Markup.Evaluation] (r : Request) : Except CommandError Outcome :=
  match r.builder with
  | .error e => .error (.usage e)
  | .ok b => match Report.print pageWidth (Destination.report pageWidth) b.make.result with
    | .ok printed => .ok ⟨printed, r.keep b.make.records⟩
    | .error e => .error (.report e)

end Request

/-- What a command line does, where help consists of certain lines. -/
def run [Markup.Evaluation] (arguments : List String)
    (helpLines : Topic → List (List Char) := fun _ => []) : Except CommandError Outcome :=
  match Invocation.of arguments with
  | .error e => .error (.usage e)
  | .ok (.help topic) => .ok ⟨⟨0, helpLines topic⟩, []⟩
  | .ok (.settings settings) => (Request.ofSettings settings).perform

end Command

end Egress
