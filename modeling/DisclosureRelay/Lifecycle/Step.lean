import DisclosureRelay.Lifecycle.Basic
import DisclosureRelay.Machine

/-!
# The rules of a login

`step` is what a login does on one event, up to the point where every call waits again, and `run`
a row of events. Whoever returns the user takes the login over first, by moving it to a terminal
phase, which fails if another call was faster.

The parts of a call are functions of their own: `start`, `handleError` and `abort` are its
beginnings, `widgetEnded` and `replied` how it goes on, and `interrupt` what an interrupt does to a
run.
-/

namespace DisclosureRelay.Lifecycle

/-- What comes of one event. -/
abbrev Outgoing := State × List Effect

namespace State

/-- Ends a call. -/
def finish (s : State) (id : CallId) (ending : Ending) : Outgoing :=
  (s.moveTo id (.ended ending), [.finish id ending])

/-- Begins the error exchange, after the page was told. -/
def returnWithError (s : State) (id : CallId) : Outgoing :=
  ({ s with phase := .erroring }.moveTo id (.atExchange .error),
    [.hook .onError, .beginExchange id .error])

/-- Takes the login over for an error. -/
def handleError (s : State) (id : CallId) : Outgoing :=
  if s.phase.isTerminal then s.finish id .superseded else s.returnWithError id

/-- The registered widget is told to stop, then the page, and the abort exchange begins. -/
def returnWithAbort (s : State) (id : CallId) (waiting : Stage) : Outgoing :=
  ({ s with phase := .aborting, registered := none }.moveTo id waiting,
    (s.registered.map Effect.abortWidget).toList ++ [.hook .onError, .beginExchange id .abort])

/-- Takes the login over for an abort. -/
def abort (s : State) (id : CallId) : Outgoing :=
  if s.phase.isTerminal then s.finish id .superseded
  else s.returnWithAbort id (.atExchange .abort)

/-- Starts a widget, if this is the first call; without a usable session the user is returned with
an error instead. -/
def start (s : State) (id : CallId) (widget : WidgetId) : Outgoing :=
  if s.phase ≠ .idle then s.finish id .superseded
  else
    let s := { s with phase := .starting }
    match s.config.handover with
    | .error _ => s.handleError id
    | .ok handover =>
      ({ s with registered := some widget }.moveTo id (.atWidget widget),
        [.startWidget id widget handover])

/-- Makes a call. -/
def enter (s : State) (id : CallId) : Entry → Outgoing
  | .start widget => s.start id widget
  | .run widget =>
    let (s, effects) := s.start id widget
    (s.mark id .open, effects)
  | .handleError => s.handleError id
  | .abort => s.abort id

/-- Goes on after the widget ended. -/
def widgetEnded (s : State) (id : CallId) (outcome : Widget.Outcome) : Outgoing :=
  let s := { s with registered := none }
  match outcome with
  | .completed token =>
    if s.phase = .starting then
      ({ s with phase := .succeeded }.moveTo id (.atExchange (.success token)),
        [.beginExchange id (.success token)])
    else s.finish id .superseded
  | .failed _ => s.handleError id
  | .aborted => s.abort id

/-- Arms the return with an assertion and ends the call. -/
def arm (s : State) (id : CallId) (assertion : Assertion) : Outgoing :=
  let (s, effects) := s.finish id (.returning assertion)
  (s, .armReturn id assertion :: effects)

/-- Tells the page that returning failed and ends the call. -/
def fail (s : State) (id : CallId) (failure : Failure) : Outgoing :=
  let (s, effects) := s.finish id (.failed failure)
  (s, .hook .onReturningFailed :: effects)

/-- Goes on after the reply to an exchange. A success that was not granted becomes an error; an
error or an abort that was not granted is the end. -/
def replied (s : State) (id : CallId) (exchange : Exchange) (reply : Http.Reply) : Outgoing :=
  match exchange.conclude s.config reply with
  | .ok assertion => s.arm id assertion
  | .error failure =>
    match exchange with
    | .success _ => s.returnWithError id
    | .error | .abort => s.fail id failure

/-- The interrupt of a run takes the login over for an abort, or, if another call was faster, leaves
the run as it is. -/
def interrupt (s : State) (id : CallId) : Outgoing :=
  let s := s.mark id .taken
  if s.phase.isTerminal then (s, []) else s.returnWithAbort id .interrupted

/-- What a login does on an event. An event that no call is waiting for changes nothing. -/
def step (s : State) : Event → Outgoing
  | .call id entry =>
    match s.calls id with
    | none => s.enter id entry
    | some _ => (s, [])
  | .widgetEnded id outcome =>
    match s.stage? id with
    | some (.atWidget _) => s.widgetEnded id outcome
    | _ => (s, [])
  | .replied id reply =>
    match s.stage? id with
    | some (.atExchange exchange) => s.replied id exchange reply
    | some .interrupted => s.replied id .abort reply
    | _ => (s, [])
  | .interrupt id =>
    match s.calls id with
    | some { interrupt := .open, stage := .atWidget _ }
    | some { interrupt := .open, stage := .atExchange _ } => s.interrupt id
    | _ => (s, [])

@[simp] theorem finish_fst (s : State) (id : CallId) (ending : Ending) :
    (s.finish id ending).1 = s.moveTo id (.ended ending) := rfl

@[simp] theorem returnWithAbort_fst (s : State) (id : CallId) (waiting : Stage) :
    (s.returnWithAbort id waiting).1 =
      { s with phase := .aborting, registered := none }.moveTo id waiting := rfl

/-- What a login does on a row of events. -/
def run (s : State) (events : List Event) : Outgoing :=
  Machine.run step s events

end State

end DisclosureRelay.Lifecycle
