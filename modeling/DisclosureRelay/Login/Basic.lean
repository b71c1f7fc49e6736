import DisclosureRelay.Lifecycle.History
import DisclosureRelay.Report
import DisclosureRelay.Return.Navigator
import DisclosureRelay.Return.Schedule

/-!
# A login as a whole

A login with everything that belongs to it: the lifecycle, the requests of its widget, the returns
it arms under the clock, the page it shows and the reporter of its failures. `Login.step` is one
event of any of these parts; what the parts have to tell each other happens within the event.
`Login.run` is a row of events and gives the effects with their times.
-/

namespace DisclosureRelay

/-- A login with its returns, its page and its reporter. -/
structure Login where
  settings : Settings
  lifecycle : Lifecycle.State
  schedule : Return.Schedule
  view : View
  reporter : Reporter

namespace Login

/-- What can happen to a login. -/
inductive Event where
  | lifecycle (event : Lifecycle.Event)
  /-- The widget that a call waits for makes a request, which may be impossible. -/
  | asks (id : Lifecycle.CallId) (request : Except Http.Fault Http.Request)
  /-- Time passes, or something happens to an attempt to return; attempts may be armed here too. -/
  | returns (event : Return.Schedule.Event)
  | report (event : Reporter.Event)
  /-- A hook of the page is called from outside. -/
  | hook (hook : Hook)

/-- What a login does. -/
inductive Effect where
  | lifecycle (effect : Lifecycle.Effect)
  | asks (widget : Lifecycle.WidgetId) (request : Except Http.Fault Http.Request)
  | returns (effect : Return.Schedule.Effect)
  | report (effect : Reporter.Effect)

/-- A login before any event; the server may have marked the page as failed. -/
def initial (config : Session.Config) (settings : Settings) (errorUrl : String)
    (hasError : Bool) : Login :=
  { settings
    lifecycle := .initial config
    schedule := {}
    view := .initial hasError settings.supportContact
    reporter := { url := errorUrl } }

/-- The time. -/
def now (login : Login) : Nat :=
  login.schedule.now

/-- The time limit of requests. -/
def limitMs (login : Login) : Nat :=
  1000 * login.settings.httpTimeoutSecs

/-- What an effect of the lifecycle means for the page and the returns. -/
def absorb (login : Login) : Lifecycle.Effect → Login
  | .hook hook => { login with view := login.view.call hook }
  | .armReturn _ assertion =>
    { login with schedule := (login.schedule.step (.arm assertion login.settings)).1 }
  | _ => login

/-- What an effect of an attempt means for the page. -/
def notice (login : Login) (effect : Return.Schedule.Effect) : Login :=
  match effect.effect with
  | .returningFailed => { login with view := login.view.call .onReturningFailed }
  | .submit _ => login

/-- One event. Nothing of a widget is left once no call waits for it any more. -/
def step (login : Login) : Event → Login × List Effect
  | .lifecycle event =>
    let (lifecycle, effects) := login.lifecycle.step event
    (effects.foldl absorb { login with lifecycle }, effects.map .lifecycle)
  | .asks id request =>
    match login.lifecycle.stage? id with
    | some (.atWidget widget) => (login, [.asks widget request])
    | _ => (login, [])
  | .returns event =>
    let (schedule, effects) := login.schedule.step event
    (effects.foldl notice { login with schedule }, effects.map .returns)
  | .report event =>
    let (reporter, effects) := login.reporter.step event
    ({ login with reporter }, effects.map .report)
  | .hook hook => ({ login with view := login.view.call hook }, [])

/-- One event; each effect comes with its time. -/
def timedStep (login : Login) (event : Event) : Login × List (Nat × Effect) :=
  let (next, effects) := login.step event
  (next, effects.map (login.now, ·))

/-- A row of events; each effect comes with its time. -/
def run (login : Login) (events : List Event) : Login × List (Nat × Effect) :=
  Machine.run timedStep login events

/-- The effects of the lifecycle among those of a login. -/
def lifecycleEffects (effects : List (Nat × Effect)) : List Lifecycle.Effect :=
  effects.filterMap fun
    | (_, .lifecycle effect) => some effect
    | _ => none

/-- The effects of the attempts among those of a login. -/
def returnEffects (effects : List (Nat × Effect)) : List Return.Schedule.Effect :=
  effects.filterMap fun
    | (_, .returns effect) => some effect
    | _ => none

/-- The effects of the reporter among those of a login. -/
def reportEffects (effects : List (Nat × Effect)) : List Reporter.Effect :=
  effects.filterMap fun
    | (_, .report effect) => some effect
    | _ => none

/-- The request that an effect makes, where its address can be asked; forms are posted only if the
navigator does so. -/
def request? (login : Login) (postsForms : Bool) : Effect → Option Http.Request
  | .lifecycle (.beginExchange _ exchange) => (exchange.request login.lifecycle.config).toOption
  | .asks _ request => request.toOption
  | .returns { effect := .submit form, .. } =>
    if postsForms then (Return.Navigator.httpRequest form).toOption else none
  | .report (.post _ body) => (login.reporter.request body).toOption
  | _ => none

/-- The requests that effects make, with their times. -/
def requests (login : Login) (postsForms : Bool) (effects : List (Nat × Effect)) :
    List (Nat × Http.Request) :=
  effects.filterMap fun (time, effect) =>
    (login.request? postsForms effect).map (time, ·)

end Login

end DisclosureRelay
