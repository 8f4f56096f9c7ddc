import Egress.Command.Show

/-! # The program

Runs the command line: prints the lines on standard output and the records, with the milliseconds
since the start, on standard error. -/

namespace Egress

/-- The options of a command line. -/
def helpLines : Command.Topic → List (List Char)
  | .program => ["Usage: [--help] show [OPTIONS]".toList]
  | .command => ("Usage: show [OPTIONS]" :: Command.helpLong :: Command.verboseLong ::
      Command.ValueOption.all.map fun o => o.long ++ " TEXT").map String.toList

/-- Prints what a command line does, and gives the exit code. -/
def execute (arguments : List String) : IO UInt32 := do
  match Command.run arguments helpLines with
  | .ok outcome =>
    let time ← IO.monoMsNow
    for r in outcome.records do
      IO.eprintln (r.line (toString time))
    for line in outcome.printed.lines do
      IO.println (String.ofList line)
    return UInt32.ofNat outcome.printed.code
  | .error (.usage e) =>
    IO.eprintln ("Error: " ++ e.message)
    return 2
  | .error e =>
    IO.eprintln e.message
    return 1

end Egress

/-- The program. -/
def main (arguments : List String) : IO UInt32 := Egress.execute arguments
