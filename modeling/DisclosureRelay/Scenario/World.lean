import DisclosureRelay.Scenario.Basic

/-!
# The world of a scenario

The world is a login together with its surrounding and an agenda of what is to come: replies, ends
of submissions, timers and widgets that have something to look at. `World.react` turns the effects of
the login into new appointments, `World.perform` does what an appointment is for, and
`World.playUntil` performs appointments up to a time, the earliest first; of those at one time, a
request that fails before it is sent comes first, and what comes from outside comes last.
-/

namespace DisclosureRelay.Scenario

open Lifecycle (CallId WidgetId)
open Return (AttemptId Timer)
open Widget (Outcome ResultWidget)

/-- A widget in its surrounding. -/
inductive WidgetState where
  | fixed (outcome : Outcome)
  | pending (onAbort : Option Outcome) (told : List Outcome)
  | result (widget : ResultWidget)

/-- What is to come. -/
inductive Occurrence where
  | look (widget : WidgetId)
  | replied (call : CallId) (reply : Http.Reply)
  | fetched (widget : WidgetId) (reply : Http.Reply)
  | reportReplied (call : CallId) (reply : Http.Reply)
  | submitted (attempt : AttemptId) (result : Except String Unit)
  | due (attempt : AttemptId) (timer : Timer)

/-- What an occurrence waits for, once its time has come. -/
inductive Urgency where
  /-- It waits for nothing: it is known at the very moment. -/
  | atOnce
  /-- It waits for what else is known at the moment. -/
  | soon
  /-- It comes from outside, and waits for all else. -/
  | outside
  deriving DecidableEq

/-- The place of an urgency among those of one time. -/
def Urgency.rank : Urgency → Nat
  | .atOnce => 0
  | .soon => 1
  | .outside => 2

/-- An occurrence, its time, and its urgency at that time. -/
structure Appointment where
  time : Nat
  urgency : Urgency
  occurrence : Occurrence

/-- Whether an appointment comes before another one that was made earlier. -/
def Appointment.before (a b : Appointment) : Bool :=
  a.time < b.time || (a.time == b.time && a.urgency.rank < b.urgency.rank)

/-- A login in its surrounding. -/
structure World where
  login : Login
  network : Http.Network
  submitter : Submitter
  agenda : List Appointment := []
  widgets : List WidgetState := []
  /-- The call that runs a widget. -/
  runners : List (WidgetId × CallId) := []
  nextCall : CallId := 0
  /-- The runs whose interrupt did not come yet, the latest one first. -/
  interruptible : List CallId := []
  /-- The calls that wait for the outcome of an attempt. -/
  awaiting : List (CallId × AttemptId) := []
  /-- The attempts that were waited for, and are not at hand any more. -/
  consumed : List AttemptId := []
  /-- The failures that calls ended with and that were not reported yet. -/
  failures : List (CallId × Failure) := []
  submissions : List SubmissionNote := []
  news : News := {}

namespace World

/-- A world before any step. -/
def initial (setup : Setup) : World :=
  { login := .initial setup.config setup.settings setup.errorUrl setup.hasError
    network := setup.network
    submitter := setup.submitter }

/-- Makes an appointment behind those that come before it or were made earlier. -/
def plan (w : World) (appointment : Appointment) : World :=
  let earlier := w.agenda.takeWhile fun other => !appointment.before other
  { w with agenda := earlier ++ appointment :: w.agenda.drop earlier.length }

/-- Something is known already. -/
def atOnce (w : World) (occurrence : Occurrence) : World :=
  w.plan { time := w.login.now, urgency := .atOnce, occurrence }

/-- Something that needs nothing from outside is to come without time passing. -/
def soon (w : World) (occurrence : Occurrence) : World :=
  w.plan { time := w.login.now, urgency := .soon, occurrence }

/-- Something is to come from outside after a while. -/
def later (w : World) (delayMs : Nat) (occurrence : Occurrence) : World :=
  w.plan { time := w.login.now + delayMs, urgency := .outside, occurrence }

/-- Sends a request, if there is one, and waits for the reply to it. Without a request, or without
any time to wait, it is known at once that no reply comes. -/
def send (w : World) (request : Except Http.Fault Http.Request)
    (occurrence : Http.Reply → Occurrence) : World :=
  let asked := w.network.ask w.login.limitMs request
  let seen := (asked.hops.filter (·.seen)).map fun hop => (w.login.now + hop.time, hop.request)
  let w : World :=
    { w with network := asked.network, news := { w.news with requests := w.news.requests ++ seen } }
  if request.isOk ∧ 0 < w.login.limitMs then w.later asked.delayMs (occurrence asked.reply)
  else w.atOnce (occurrence asked.reply)

/-- Notes that a call ended. -/
def finish (w : World) (call : CallId) (result : Result) : World :=
  let failures := match result with
    | .failed failure => w.failures ++ [(call, failure)]
    | _ => w.failures
  { w with
    failures
    news := { w.news with finished := w.news.finished ++ [(call, w.login.now, result)] } }

/-- Notes that a hook was called. -/
def noteHook (w : World) (hook : Hook) : World :=
  { w with news := { w.news with hooks := w.news.hooks ++ [hook] } }

/-- Notes what a widget did. -/
def noteWidget (w : World) (note : WidgetNote) : World :=
  { w with news := { w.news with widgets := w.news.widgets ++ [note] } }

/-- Replaces the state of a widget. -/
def setWidget (w : World) (id : WidgetId) (state : WidgetState) : World :=
  { w with widgets := w.widgets.set id state }

/-- Tells a widget to abort. -/
def abortWidget (w : World) (id : WidgetId) : World :=
  let w := w.noteWidget .abort
  match w.widgets[id]? with
  | some (.pending (some outcome) told) =>
    (w.setWidget id (.pending (some outcome) (told ++ [outcome]))).soon (.look id)
  | some (.result widget) => (w.setWidget id (.result (widget.step .abort).1)).soon (.look id)
  | _ => w

/-- Starts a widget on behalf of a call. -/
def startWidget (w : World) (call : CallId) (id : WidgetId) (handover : Widget.Handover) : World :=
  let w : World := { w with runners := (id, call) :: w.runners }
  let w := w.noteWidget (.start handover)
  match w.widgets[id]? with
  | some (.result widget) =>
    (w.setWidget id (.result (widget.step (.start handover.resultUrl)).1)).soon (.look id)
  | _ => w.soon (.look id)

/-- Arms the timers of an attempt. -/
def setTimers (w : World) (id : AttemptId) : World :=
  match w.login.schedule.attempts[id]? with
  | none => w
  | some attempt =>
    (w.plan { time := attempt.submitAt, urgency := .outside, occurrence := .due id .submit }).plan
      { time := attempt.fallbackAt, urgency := .outside, occurrence := .due id .fallback }

/-- The number of the attempt that was armed last. -/
def lastAttempt (w : World) : AttemptId :=
  w.login.schedule.attempts.length - 1

/-- The result of a call that ended in the lifecycle. -/
def resultOf (w : World) : Lifecycle.Ending → Result
  | .superseded => .superseded
  | .returning assertion => .attempt w.lastAttempt (.ofAssertion assertion)
  | .failed failure => .failed failure

/-- Submits a form by the navigator. -/
def submit (w : World) (id : AttemptId) (form : Return.Form) : World :=
  let note : SubmissionNote := { attempt := id, time := w.login.now, form, result := none }
  let w := { w with submissions := w.submissions ++ [note] }
  match w.submitter with
  | .memory delayMs failure =>
    let result : Except String Unit := match failure with
      | some text => .error text
      | none => .ok ()
    if delayMs = 0 then w.soon (.submitted id result) else w.later delayMs (.submitted id result)
  | .http =>
    w.send (Return.Navigator.httpRequest form)
      fun reply => .submitted id (Return.Navigator.httpResult form reply)
  | .page path writable => w.soon (.submitted id (Return.Navigator.pageResult path writable))

/-- What an effect of the login brings about. -/
def react (w : World) : Login.Effect → World
  | .lifecycle (.startWidget call widget handover) => w.startWidget call widget handover
  | .lifecycle (.abortWidget widget) => w.abortWidget widget
  | .lifecycle (.hook hook) => w.noteHook hook
  | .lifecycle (.beginExchange call exchange) =>
    w.send (exchange.request w.login.lifecycle.config) (.replied call)
  | .lifecycle (.armReturn _ _) => w.setTimers w.lastAttempt
  | .lifecycle (.finish call ending) => w.finish call (w.resultOf ending)
  | .asks widget request => w.send request (.fetched widget)
  | .returns { id, effect := .submit form, .. } => w.submit id form
  | .returns { effect := .returningFailed, .. } => w.noteHook .onReturningFailed
  | .report (.post call body) => w.send (w.login.reporter.request body) (.reportReplied call)
  | .report (.finish call (.ok posted)) => w.finish call (.sent posted)
  | .report (.finish call (.error failure)) => w.finish call (.failed failure)

/-- Ends the calls that wait for an attempt whose outcome is known. -/
def settle (w : World) : World :=
  w.awaiting.foldl
    (fun w (call, id) =>
      match w.login.schedule.attempts[id]?.bind (·.outcome?) with
      | none => w
      | some outcome =>
        let w := { w with awaiting := w.awaiting.filter (·.1 ≠ call) }
        match outcome with
        | .ok () => w.finish call .settled
        | .error failure => w.finish call (.failed failure))
    w

/-- One event of the login and all that it brings about. -/
def apply (w : World) (event : Login.Event) : World :=
  let (login, effects) := w.login.step event
  (effects.foldl react { w with login }).settle

/-- The call that waits for a widget, if one does. -/
def waiting? (w : World) (id : WidgetId) : Option CallId :=
  match w.runners.lookup id with
  | none => none
  | some call =>
    if w.login.lifecycle.stage? call = some (.atWidget id) then some call else none

/-- The run of a widget ends. -/
def endWidget (w : World) (call : CallId) (outcome : Outcome) : World :=
  (w.noteWidget (.finish outcome)).apply (.lifecycle (.widgetEnded call outcome))

/-- What a widget that fetches results does. -/
def reactResult (w : World) (call : CallId) : Widget.ResultEffect → World
  | .fetch url => w.apply (.asks call (ResultWidget.request url))
  | .ended outcome => w.endWidget call outcome

/-- Something happens to a widget that fetches results. -/
def stepResult (w : World) (id : WidgetId) (call : CallId) (widget : ResultWidget)
    (event : Widget.ResultEvent) : World :=
  let (widget, effects) := widget.step event
  effects.foldl (fun w effect => w.reactResult call effect) (w.setWidget id (.result widget))

/-- The run of a widget looks at what came. -/
def look (w : World) (id : WidgetId) : World :=
  match w.waiting? id, w.widgets[id]? with
  | some call, some (.fixed outcome) => w.endWidget call outcome
  | some call, some (.pending onAbort (outcome :: told)) =>
    (w.setWidget id (.pending onAbort told)).endWidget call outcome
  | some call, some (.result widget) => w.stepResult id call widget .look
  | _, _ => w

/-- Notes how the submission of an attempt ended, unless it was dropped before. -/
def endSubmission (w : World) (id : AttemptId) (result : Except String Unit) : World :=
  match w.login.schedule.attempts[id]? with
  | some { submission := .running, .. } =>
    let submissions := w.submissions.map fun note =>
      if note.attempt = id then { note with result := some (w.login.now, result) } else note
    { w with submissions }.apply (.returns (.submitted id result.isOk))
  | _ => w

/-- Does what an appointment is for. -/
def perform (w : World) : Occurrence → World
  | .look widget => w.look widget
  | .replied call reply => w.apply (.lifecycle (.replied call reply))
  | .fetched widget reply =>
    match w.waiting? widget, w.widgets[widget]? with
    | some call, some (.result state) => w.stepResult widget call state (.fetched reply)
    | _, _ => w
  | .reportReplied call reply => w.apply (.report (.replied call reply))
  | .submitted attempt result => w.endSubmission attempt result
  | .due attempt timer => w.apply (.returns (.due attempt timer))

/-- Lets time pass up to a moment. -/
def passTo (w : World) (time : Nat) : World :=
  w.apply (.returns (.pass (time - w.login.now)))

/-- How many appointments may still come, generously: each of them makes only a few more. -/
def patience (w : World) : Nat :=
  16 * (w.agenda.length + w.nextCall + w.login.schedule.attempts.length + 1)

/-- Performs appointments up to a time, at most so many. -/
def playWithin : Nat → Nat → World → World
  | 0, _, w => w
  | count + 1, time, w =>
    match w.agenda with
    | [] => w.passTo time
    | next :: rest =>
      if next.time ≤ time then
        playWithin count time (({ w with agenda := rest }.passTo next.time).perform next.occurrence)
      else w.passTo time

/-- Performs appointments up to a time. -/
def playUntil (w : World) (time : Nat) : World :=
  playWithin w.patience time w

end World

end DisclosureRelay.Scenario
