import DisclosureRelay.Scenario.World

/-!
# Playing a scenario

`World.enact` does one step of a scenario, after which everything happens that can happen without
time passing. `play` does all steps and gives a `Record` of each.
-/

namespace DisclosureRelay.Scenario

open Lifecycle (CallId WidgetId Entry)
open Widget (Outcome ResultWidget)

namespace World

/-- Creates a widget, which is numbered after the ones before. -/
def create (w : World) (plan : WidgetPlan) : WidgetId × World :=
  let state : WidgetState := match plan.behaviour with
    | .fixed outcome => .fixed outcome
    | .pending onAbort => .pending onAbort []
    | .result confirmed closed =>
      .result { confirmations := if confirmed then 1 else 0, closed }
  let id := w.widgets.length
  let w : World := { w with widgets := w.widgets ++ [state] }
  (id, if plan.preAbort then w.abortWidget id else w)

/-- Makes a call of the lifecycle. -/
def call (w : World) (entry : Entry) : World :=
  let id := w.nextCall
  { w with nextCall := id + 1 }.apply (.lifecycle (.call id entry))

/-- Makes a call that starts a widget. -/
def callWith (w : World) (plan : WidgetPlan) (entry : WidgetId → Entry) : World :=
  let (id, w) := w.create plan
  w.call (entry id)

/-- The number of the widget that fetches results and was created last. -/
def lastResult? (w : World) : Option WidgetId :=
  let isResult (id : WidgetId) : Bool :=
    match w.widgets[id]? with
    | some (.result _) => true
    | _ => false
  (List.range w.widgets.length).reverse.find? isResult

/-- Something happens to the channel of the widget that fetches results and was created last. -/
def tellResult (w : World) (event : Widget.ResultEvent) : World :=
  match w.lastResult? with
  | none => w
  | some id =>
    match w.widgets[id]? with
    | some (.result widget) => (w.setWidget id (.result (widget.step event).1)).soon (.look id)
    | _ => w

/-- Tells an outcome to the widget that was created last. -/
def resolve (w : World) (outcome : Outcome) : World :=
  let id := w.widgets.length - 1
  match w.widgets[id]? with
  | some (.pending onAbort told) =>
    (w.setWidget id (.pending onAbort (told ++ [outcome]))).soon (.look id)
  | _ => w

/-- Lets the interrupt of the latest run come whose interrupt did not come yet. -/
def interrupt (w : World) : World :=
  match w.interruptible with
  | [] => w
  | id :: rest => { w with interruptible := rest }.apply (.lifecycle (.interrupt id))

/-- Arms a return outside of the lifecycle. -/
def relay (w : World) (assertion : Assertion) : World :=
  let id := w.nextCall
  let w := { w with nextCall := id + 1 }.apply (.returns (.arm assertion w.login.settings))
  (w.setTimers w.lastAttempt).finish id (.attempt w.lastAttempt (.ofAssertion assertion))

/-- Makes a call of the reporter. -/
def report (w : World) (report : Report) : World :=
  let id := w.nextCall
  { w with nextCall := id + 1 }.apply (.report (.report id report))

/-- Does a step of a scenario; `none` if what it asks for is not there. -/
def enact? (w : World) : Step → Option World
  | .start plan => some (w.callWith plan .start)
  | .run plan =>
    some (({ w with interruptible := w.nextCall :: w.interruptible } : World).callWith plan .run)
  | .interrupt => some w.interrupt
  | .resolve outcome => some (w.resolve outcome)
  | .confirm => some (w.tellResult .confirm)
  | .closeConfirmations => some (w.tellResult .close)
  | .handleError => some (w.call .handleError)
  | .abort => some (w.call .abort)
  | .relay assertion => some (w.relay assertion)
  | .cancel attempt =>
    if w.consumed.contains attempt then some w
    else some (w.apply (.returns (.cancel attempt)))
  | .outcome attempt =>
    if w.consumed.contains attempt ∨ w.login.schedule.attempts.length ≤ attempt then none
    else
      let w : World :=
        { w with
          nextCall := w.nextCall + 1
          consumed := attempt :: w.consumed
          awaiting := w.awaiting ++ [(w.nextCall, attempt)] }
      some w.settle
  | .reportCall call source =>
    match w.failures.lookup call with
    | none => none
    | some failure =>
      let w : World := { w with failures := w.failures.filter (·.1 ≠ call) }
      some (w.report (.ofFailure failure source))
  | .report none => none
  | .report (some report) => some (w.report report)
  | .hook hook => some ((w.apply (.hook hook)).noteHook hook)
  | .advance milliseconds => some (w.playUntil (w.login.now + milliseconds))

/-- Does a step of a scenario and all that can happen then without time passing. -/
def enact (w : World) (step : Step) : Record × World :=
  let next := w.enact? step
  let w := (next.getD w).playUntil (next.getD w).login.now
  ({ login := w.login, news := w.news, submissions := w.submissions, unavailable := next.isNone },
    { w with news := {} })

/-- Does steps one after the other. -/
def enactAll (w : World) : List Step → List Record
  | [] => []
  | step :: rest =>
    let (record, w) := w.enact step
    record :: w.enactAll rest

end World

/-- Plays a scenario. -/
def play (setup : Setup) (steps : List Step) : List Record :=
  (World.initial setup).enactAll steps

end DisclosureRelay.Scenario
