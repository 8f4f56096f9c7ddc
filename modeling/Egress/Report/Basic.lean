import Egress.Destination.Builder
import Egress.Layout.Panel
import Egress.Markup.Basic

/-! # Reports

A report shows a destination in two panels, one with what the destination resolves to and one with
its headers. Apart from the address, what is shown is text with markup. All of a panel is read
before any of it is drawn.

* `Destination.report`        both panels
* `Report.headers`            the panel of the headers
* `DestinationError.report`   the lines that show an error
* `Report.print`              a report, or the error that stands in its way -/

namespace Egress

open Markup (MarkupError)
open Layout (Panel Table Row)

/-- Why a report cannot be made. -/
inductive ReportError where
  -- There is no destination: the derivation of its proxy configuration broke off.
  | derivation (e : DerivationError)
  -- The destination cannot be read.
  | destination (e : DestinationError)
  -- The markup of a text cannot be read or drawn.
  | markup (e : MarkupError)
  -- The address is not held as a text.
  | addressType
  -- A value of this type cannot be shown in a cell.
  | cellType (typeName : String)

/-- The wording of an error. -/
def ReportError.message : ReportError → String
  | .derivation e => e.message
  | .destination e => e.message
  | .markup e => e.message
  | .addressType => "a bytes-like object is required, not 'dict'"
  | .cellType t => "unable to render " ++ t ++ "; a string or other renderable object is required"

section

variable [Markup.Evaluation]

namespace Report

/-- The content of a cell. -/
inductive Cell where
  -- A text that is shown as it is.
  | literal (s : String)
  | markup (s : String)
  deriving DecidableEq, Repr

/-- What a cell shows. -/
def Cell.shown : Cell → Except MarkupError (List Char)
  | .literal s => .ok (Markup.dropControls s.toList)
  | .markup s => Markup.plain s.toList

/-- Looks up the styles of a cell. -/
def Cell.lookUpStyles : Cell → Except MarkupError Unit
  | .literal _ => .ok ()
  | .markup s => Markup.lookUpStyles s.toList

/-- A panel to be shown. -/
structure Sheet where
  title : String
  head : String × String
  rows : List (Cell × Cell)

/-- The width of a page from which on the cells of a panel have room for text. -/
def leastWidth : Nat := 8

/-- What the cells of a sheet show. The left column is read before the right one, and nothing is
read when there is no room for it. -/
def Sheet.shown (s : Sheet) (width : Nat) : Except MarkupError (List Row) :=
  if width < leastWidth then .ok (s.rows.map fun _ => ⟨[], []⟩)
  else do
    let lefts ← s.rows.mapM fun r => r.1.shown
    let rights ← s.rows.mapM fun r => r.2.shown
    return List.zipWith Row.mk lefts rights

/-- Looks up the styles of a sheet, row by row, if there is room for it. -/
def Sheet.lookUpStyles (s : Sheet) (width : Nat) : Except MarkupError Unit :=
  if width < leastWidth then .ok ()
  else s.rows.forM fun r => do
    r.1.lookUpStyles
    r.2.lookUpStyles

/-- The lines of a sheet on a page. -/
def Sheet.lines (s : Sheet) (width : Nat) : Except MarkupError (List (List Char)) := do
  let rows ← s.shown width
  s.lookUpStyles width
  return (Panel.mk s.title.toList ⟨⟨s.head.1.toList, s.head.2.toList⟩, rows⟩).lines width

/-- The text for what is not there. -/
def absent : String := "-"

/-- The address of a destination as it was configured, provided that it is one. -/
def address (d : Destination) : Except ReportError String :=
  match d.uri with
  | .error e => .error (.destination e)
  | .ok _ => match (d.properties.get? (.text PropertyKey.url.name)).bind Value.text? with
    | some s => .ok s
    | none => .error .addressType

def tlsVersion (d : Destination) : Except ReportError String :=
  match d.tlsVersion with
  | .error e => .error (.destination (.property e))
  | .ok none => .ok absent
  | .ok (some s) => .ok (if s = "" then absent else s)

/-- The sheet with what a destination resolves to. -/
def overview (d : Destination) : Except ReportError Sheet := do
  let address ← address d
  let version ← tlsVersion d
  return ⟨"Destination", ("Attribute", "Value"),
    [(.markup "URI", .literal address),
      (.markup "Proxy type", .markup ProxyType.internet.text),
      (.markup "Proxy", .markup (d.proxy.elim absent fun c => c.uri.text)),
      (.markup "TLS version", .markup version),
      (.markup "Authentication", .markup AuthenticationType.noAuthentication.text),
      (.markup "Header providers", .markup (toString d.providers.length))]⟩

/-- The cell of a value: a text, or nothing. -/
def cellOf (v : Value) : Except ReportError Cell :=
  match v, v.text? with
  | .null, _ => .ok (.markup "")
  | _, some s => .ok (.markup s)
  | v, none => .error (.cellType v.typeName)

def headerRow (h : Value) : Except ReportError (Cell × Cell) :=
  match h with
  | .header name value => do return (← cellOf name, ← cellOf value)
  | v => .error (.cellType v.typeName)

def headerSheet (headers : List Value) : Except ReportError Sheet := do
  return ⟨"Headers", ("Name", "Value"), ← headers.mapM headerRow⟩

/-- The lines of a sheet, if there is one. -/
def drawn (width : Nat) (s : Except ReportError Sheet) : Except ReportError (List (List Char)) :=
  match s with
  | .error e => .error e
  | .ok s => match s.lines width with
    | .ok lines => .ok lines
    | .error e => .error (.markup e)

/-- The lines that show headers. -/
def headers (width : Nat) (headers : List Value) : Except ReportError (List (List Char)) :=
  drawn width (headerSheet headers)

end Report

/-- The lines that show a destination on a page of some width. -/
def Destination.report (width : Nat) (d : Destination) : Except ReportError (List (List Char)) := do
  let overview ← Report.drawn width (Report.overview d)
  let headers ← Report.headers width d.headers
  return overview ++ headers

/-- The markup that shows an error. -/
def DestinationError.markup (e : DestinationError) : String :=
  "[bold red]Error:[/bold red] " ++ e.message

/-- The lines that show an error on a page of some width. -/
def DestinationError.report (width : Nat) (e : DestinationError) :
    Except MarkupError (List (List Char)) := do
  let shown ← Markup.plain e.markup.toList
  if width = 0 then return []
  Markup.lookUpStyles e.markup.toList
  return Layout.wrap .fold width shown

/-- What is printed. -/
structure Printed where
  -- The exit code of a program that ends with it.
  code : Nat
  lines : List (List Char)
  deriving DecidableEq, Repr

namespace Report

def printError (width : Nat) (e : DestinationError) : Except ReportError Printed :=
  match e.report width with
  | .ok lines => .ok ⟨1, lines⟩
  | .error e => .error (.markup e)

/-- Prints a report of a destination that was made, or the error of it that stands in the way. -/
def print (width : Nat) (report : Destination → Except ReportError (List (List Char)))
    (made : Except DerivationError Destination) : Except ReportError Printed :=
  match made with
  | .error (.proxy e) => printError width (.proxy e)
  | .error e => .error (.derivation e)
  | .ok d => match report d with
    | .ok lines => .ok ⟨0, lines⟩
    | .error (.destination e) => printError width e
    | .error e => .error e

end Report

end

end Egress
