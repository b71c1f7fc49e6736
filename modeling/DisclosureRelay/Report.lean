import DisclosureRelay.Assertion.Exchange
import DisclosureRelay.Machine

/-!
# Reports of failures

A failure is reported to an endpoint of its own, at most once in a run. `Report` is what is posted,
and `Reporter` keeps the latch: the first call raises it and posts, all later ones are dropped,
whatever comes of the post. `Reporter.step` is one event.
-/

namespace DisclosureRelay

/-- What is posted about a failure. The line and the column carry no meaning here. -/
structure Report where
  message : String
  source : String
  line : Nat := 0
  column : Nat := 0
  deriving DecidableEq

namespace Report

/-- The report of a failure in a part of the program. -/
def ofFailure (failure : Failure) (source : String) : Report :=
  { message := failure.kind ++ ": " ++ failure.message, source }

/-- The report as a JSON object. -/
def json (report : Report) : Json :=
  .object
    [("message", .text report.message), ("source", .text report.source),
     ("lineno", .natural report.line), ("colno", .natural report.column)]

/-- A text of a JSON value. -/
def text? : Json → Option String
  | .text value => some value
  | _ => none

/-- A number of 32 bits without sign of a JSON value. -/
def word? : Json → Option Nat
  | .number (.integer value) => if 0 ≤ value ∧ value < Int.pow 2 32 then some value.toNat else none
  | _ => none

/-- The report that a JSON value describes: an object, or a list of its four values. -/
def ofJson? : Json → Option Report
  | .object members => do
    some
      { message := ← text? (← Members.get? members "message")
        source := ← text? (← Members.get? members "source")
        line := ← word? (← Members.get? members "lineno")
        column := ← word? (← Members.get? members "colno") }
  | .list [message, source, line, column] => do
    some
      { message := ← text? message, source := ← text? source
        line := ← word? line, column := ← word? column }
  | _ => none

end Report

/-- The number of a call of the reporter. -/
abbrev ReportId := Nat

/-- Where a call of the reporter stands: its post is under way, or it ended, saying whether it was
the one that reported. -/
inductive ReportStage where
  | posting
  | ended (result : Except Failure Bool)

/-- The reporter of a run: where reports go, the latch, and the calls that were made. -/
structure Reporter where
  url : String
  reported : Bool := false
  calls : ReportId → Option ReportStage := fun _ => none

namespace Reporter

/-- What happens to a reporter. -/
inductive Event where
  /-- A report is made under a number that is not in use. -/
  | report (id : ReportId) (report : Report)
  /-- The post of a call was replied to, or not in time. -/
  | replied (id : ReportId) (reply : Http.Reply)

/-- What a reporter does. -/
inductive Effect where
  | post (id : ReportId) (body : String)
  | finish (id : ReportId) (result : Except Failure Bool)

/-- Puts a call at a stage. -/
def moveTo (reporter : Reporter) (id : ReportId) (stage : ReportStage) : Reporter :=
  { reporter with calls := fun other => if other = id then some stage else reporter.calls other }

/-- How a report that was posted ends: well as soon as any answer came. -/
def conclude (url : String) (reply : Http.Reply) : Except Failure Bool :=
  match JsonAnswer.received url reply with
  | .ok _ => .ok true
  | .error failure => .error failure

/-- The request of a report, if reports can be posted at all. -/
def request (reporter : Reporter) (body : String) : Except Http.Fault Http.Request :=
  Http.postJson reporter.url body

/-- Ends a call. -/
def finish (reporter : Reporter) (id : ReportId) (result : Except Failure Bool) :
    Reporter × List Effect :=
  (reporter.moveTo id (.ended result), [.finish id result])

/-- One event. The latch is raised before the first report is posted, so that no other call posts
while this one is under way or after it failed. -/
def step (reporter : Reporter) : Event → Reporter × List Effect
  | .report id report =>
    match reporter.calls id with
    | some _ => (reporter, [])
    | none =>
      if reporter.reported then reporter.finish id (.ok false)
      else
        ({ reporter with reported := true }.moveTo id .posting, [.post id report.json.print])
  | .replied id reply =>
    match reporter.calls id with
    | some .posting => reporter.finish id (conclude reporter.url reply)
    | _ => (reporter, [])

/-- A row of events. -/
def run (reporter : Reporter) (events : List Event) : Reporter × List Effect :=
  Machine.run step reporter events

end Reporter

end DisclosureRelay
