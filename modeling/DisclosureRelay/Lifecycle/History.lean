import DisclosureRelay.Lifecycle.Step

/-!
# What a login did

Views of the effects of a login, in the order in which they came: the exchanges it began, the hooks
it called, the widgets it started and stopped, the returns it armed and the calls that ended.
`reached` and `done` are where a row of events brings a new login and what it does on the way,
`Concluded` and `Answered` say what became of an exchange on the way, and `Deserted` that a call
waits for a widget though the return that it was overtaken by is over.
-/

namespace DisclosureRelay.Lifecycle

namespace Event

/-- The call that an event is about. -/
def caller : Event → CallId
  | .call id _ | .widgetEnded id _ | .replied id _ | .interrupt id => id

/-- The event in a login where another call began the exchange. -/
def redirect (id other : CallId) : Event → Event
  | .replied asking reply => .replied (if asking = id then other else asking) reply
  | event => event

end Event

namespace Effect

/-- The exchange that was begun. -/
@[simp] def exchange? : Effect → Option Exchange
  | .beginExchange _ exchange => some exchange
  | _ => none

/-- The hook that was called. -/
@[simp] def hook? : Effect → Option Hook
  | .hook called => some called
  | _ => none

/-- The widget that was started. -/
@[simp] def started? : Effect → Option (WidgetId × Widget.Handover)
  | .startWidget _ widget handover => some (widget, handover)
  | _ => none

/-- The widget that was stopped. -/
@[simp] def stopped? : Effect → Option WidgetId
  | .abortWidget widget => some widget
  | _ => none

/-- The assertion with which a return was armed. -/
@[simp] def armed? : Effect → Option Assertion
  | .armReturn _ assertion => some assertion
  | _ => none

/-- The call that ended, and how. -/
@[simp] def finished? : Effect → Option (CallId × Ending)
  | .finish id ending => some (id, ending)
  | _ => none

/-- The call that ended otherwise than superseded, and how. -/
@[simp] def decided? : Effect → Option (CallId × Ending)
  | .finish _ .superseded => none
  | .finish id ending => some (id, ending)
  | _ => none

/-- The effect whichever call has it; that a call is superseded is nothing to others. -/
@[simp] def anonymous? : Effect → Option Effect
  | .startWidget _ widget handover => some (.startWidget 0 widget handover)
  | .abortWidget widget => some (.abortWidget widget)
  | .hook called => some (.hook called)
  | .beginExchange _ exchange => some (.beginExchange 0 exchange)
  | .armReturn _ assertion => some (.armReturn 0 assertion)
  | .finish _ .superseded => none
  | .finish _ ending => some (.finish 0 ending)

end Effect

/-- The exchanges that were begun. -/
def exchanges (effects : List Effect) : List Exchange :=
  effects.filterMap Effect.exchange?

/-- The hooks that were called. -/
def hooks (effects : List Effect) : List Hook :=
  effects.filterMap Effect.hook?

/-- The widgets that were started, with what they were given. -/
def startedWidgets (effects : List Effect) : List (WidgetId × Widget.Handover) :=
  effects.filterMap Effect.started?

/-- The widgets that were stopped. -/
def stoppedWidgets (effects : List Effect) : List WidgetId :=
  effects.filterMap Effect.stopped?

/-- The assertions with which returns were armed. -/
def armedReturns (effects : List Effect) : List Assertion :=
  effects.filterMap Effect.armed?

/-- The calls that ended. -/
def finishedCalls (effects : List Effect) : List (CallId × Ending) :=
  effects.filterMap Effect.finished?

/-- The calls that ended otherwise than superseded. -/
def decidedCalls (effects : List Effect) : List (CallId × Ending) :=
  effects.filterMap Effect.decided?

/-- The calls that could not return the user, and why. -/
def failedCalls (effects : List Effect) : List (CallId × Failure) :=
  (decidedCalls effects).filterMap fun
    | (id, .failed failure) => some (id, failure)
    | _ => none

@[simp] theorem exchanges_nil : exchanges [] = [] := rfl

@[simp] theorem exchanges_cons (effect : Effect) (effects : List Effect) :
    exchanges (effect :: effects) = effect.exchange?.toList ++ exchanges effects := by
  cases effect <;> rfl

@[simp] theorem exchanges_append (effects more : List Effect) :
    exchanges (effects ++ more) = exchanges effects ++ exchanges more :=
  List.filterMap_append

@[simp] theorem startedWidgets_append (effects more : List Effect) :
    startedWidgets (effects ++ more) = startedWidgets effects ++ startedWidgets more :=
  List.filterMap_append

@[simp] theorem stoppedWidgets_append (effects more : List Effect) :
    stoppedWidgets (effects ++ more) = stoppedWidgets effects ++ stoppedWidgets more :=
  List.filterMap_append

@[simp] theorem hooks_append (effects more : List Effect) :
    hooks (effects ++ more) = hooks effects ++ hooks more :=
  List.filterMap_append

@[simp] theorem failedCalls_append (effects more : List Effect) :
    failedCalls (effects ++ more) = failedCalls effects ++ failedCalls more := by
  simp [failedCalls, decidedCalls]

@[simp] theorem armedReturns_nil : armedReturns [] = [] := rfl

@[simp] theorem armedReturns_cons (effect : Effect) (effects : List Effect) :
    armedReturns (effect :: effects) = effect.armed?.toList ++ armedReturns effects := by
  cases effect <;> rfl

@[simp] theorem armedReturns_append (effects more : List Effect) :
    armedReturns (effects ++ more) = armedReturns effects ++ armedReturns more :=
  List.filterMap_append

@[simp] theorem decidedCalls_nil : decidedCalls [] = [] := rfl

@[simp] theorem decidedCalls_cons (effect : Effect) (effects : List Effect) :
    decidedCalls (effect :: effects) = effect.decided?.toList ++ decidedCalls effects := by
  cases effect with
  | finish id ending => cases ending <;> rfl
  | _ => rfl

@[simp] theorem decidedCalls_append (effects more : List Effect) :
    decidedCalls (effects ++ more) = decidedCalls effects ++ decidedCalls more :=
  List.filterMap_append

@[simp] theorem exchanges_abortWidget (widget : Option WidgetId) :
    exchanges (widget.map Effect.abortWidget).toList = [] := by
  cases widget <;> rfl

@[simp] theorem armedReturns_abortWidget (widget : Option WidgetId) :
    armedReturns (widget.map Effect.abortWidget).toList = [] := by
  cases widget <;> rfl

@[simp] theorem decidedCalls_abortWidget (widget : Option WidgetId) :
    decidedCalls (widget.map Effect.abortWidget).toList = [] := by
  cases widget <;> rfl

namespace State

/-- A call waits for the reply to an exchange. -/
def InFlight (s : State) (id : CallId) (exchange : Exchange) : Prop :=
  s.stage? id = some (.atExchange exchange) ∨
    (exchange = .abort ∧ s.stage? id = some .interrupted)

/-- A run of a widget is in progress: a call waits for its end. -/
def Running (s : State) (widget : WidgetId) : Prop :=
  ∃ id, s.stage? id = some (.atWidget widget)

/-- How a call ended, if it did. -/
def ending? (s : State) (id : CallId) : Option Ending :=
  match s.stage? id with
  | some (.ended ending) => some ending
  | _ => none

/-- The interrupt of a call came. -/
def Taken (s : State) (id : CallId) : Prop :=
  (s.calls id).map (·.interrupt) = some .taken

/-- Every call that was made has ended. -/
def Quiet (s : State) : Prop :=
  ∀ id call, s.calls id = some call → ∃ ending, call.stage = .ended ending

end State

/-- The state to which a row of events brings a new login. -/
def reached (config : Session.Config) (events : List Event) : State :=
  ((State.initial config).run events).1

/-- What a new login does on a row of events. -/
def done (config : Session.Config) (events : List Event) : List Effect :=
  ((State.initial config).run events).2

theorem reached_concat (config : Session.Config) (events : List Event) (event : Event) :
    reached config (events ++ [event]) = ((reached config events).step event).1 := by
  simp only [reached, State.run, Machine.run_concat]

theorem done_concat (config : Session.Config) (events : List Event) (event : Event) :
    done config (events ++ [event]) =
      done config events ++ ((reached config events).step event).2 := by
  simp only [reached, done, State.run, Machine.run_concat]

/-- An exchange was in flight when a reply came, and this is what the reply meant. -/
def Concluded (config : Session.Config) (events : List Event) (exchange : Exchange)
    (result : Except Failure Assertion) : Prop :=
  ∃ before id reply after,
    events = before ++ .replied id reply :: after ∧
      (reached config before).InFlight id exchange ∧ exchange.conclude config reply = result

/-- An exchange was in flight when an answer with status 200 came, and this is what its body says. -/
def Answered (config : Session.Config) (events : List Event) (exchange : Exchange)
    (fields : Assertion.Fields) : Prop :=
  ∃ before id body after,
    events = before ++ .replied id (.answer 200 (some body)) :: after ∧
      (reached config before).InFlight id exchange ∧ JsonAnswer.Holds body fields

/-- A call for an error took the login over while another call waited for its widget. -/
def Overtaken (config : Session.Config) (events : List Event) (id : CallId) (widget : WidgetId) :
    Prop :=
  Machine.Meets State.step (.initial config) events fun s event =>
    s.phase = .starting ∧ s.stage? id = some (.atWidget widget) ∧
      ∃ other, event = .call other .handleError ∧ s.stage? other = none

/-- A call was overtaken by a return with an error that is over, and waits for its widget still. -/
structure Deserted (config : Session.Config) (events : List Event) (id : CallId)
    (widget : WidgetId) : Prop where
  overtaken : Overtaken config events id widget
  waits : (reached config events).stage? id = some (.atWidget widget)
  decided : decidedCalls (done config events) ≠ []

end DisclosureRelay.Lifecycle
