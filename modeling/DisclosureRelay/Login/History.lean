import DisclosureRelay.Login.Basic
import DisclosureRelay.Return.History

/-!
# What a login as a whole did

Views of a row of events and of the effects it has: the events of the lifecycle among the others,
the attempts to return that the lifecycle armed and what these submitted, the hooks that were called
and when, and the phases that the lifecycle passed through. `outward` is what an observer sees who
cannot tell calls apart, and `SameOutside` says that two rows of events are the same to that
observer.
-/

namespace DisclosureRelay

namespace Login

/-- The event of the lifecycle that an event is. -/
def Event.lifecycle? : Event → Option Lifecycle.Event
  | .lifecycle event => some event
  | _ => none

/-- The call that an event is about, if it is about one. -/
def Event.caller? : Event → Option Lifecycle.CallId
  | .lifecycle event => some event.caller
  | .asks id _ => some id
  | _ => none

/-- Changes an event of the lifecycle; the others stay as they are. -/
def Event.onLifecycle (change : Lifecycle.Event → Lifecycle.Event) : Event → Event
  | .lifecycle event => .lifecycle (change event)
  | event => event

/-- The events of the lifecycle among those of a login. -/
def lifecycleEvents (events : List Event) : List Lifecycle.Event :=
  events.filterMap Event.lifecycle?

/-- The attempts that an event arms through the lifecycle. -/
def armedBy (login : Login) (event : Event) : List Return.Attempt :=
  match event with
  | .lifecycle _ => (login.step event).1.schedule.attempts.drop login.schedule.attempts.length
  | _ => []

/-- The attempts that the lifecycle arms on a row of events, as they are at first. -/
def lifecycleAttempts (login : Login) : List Event → List Return.Attempt
  | [] => []
  | event :: events => login.armedBy event ++ (login.step event).1.lifecycleAttempts events

/-- The numbers of the attempts that an event arms through the lifecycle. -/
def idsBy (login : Login) (event : Event) : List Return.AttemptId :=
  match event with
  | .lifecycle _ =>
    (List.range (login.step event).1.schedule.attempts.length).drop login.schedule.attempts.length
  | _ => []

/-- The numbers of the attempts that the lifecycle arms on a row of events. -/
def lifecycleIds (login : Login) : List Event → List Return.AttemptId
  | [] => []
  | event :: events => login.idsBy event ++ (login.step event).1.lifecycleIds events

/-- The forms that the attempts of the lifecycle submit on a row of events, with the times. -/
def lifecycleSubmissions (login : Login) (events : List Event) : List (Nat × Return.Form) :=
  (returnEffects (login.run events).2).filterMap fun effect =>
    if effect.id ∈ login.lifecycleIds events then effect.effect.form?.map (effect.time, ·) else none

/-- The hook of the page that an effect calls. -/
def hook? : Effect → Option Hook
  | .lifecycle (.hook hook) => some hook
  | .returns { effect := .returningFailed, .. } => some .onReturningFailed
  | _ => none

/-- The hooks that effects call, with their times. -/
def hooks (effects : List (Nat × Effect)) : List (Nat × Hook) :=
  effects.filterMap fun (time, effect) => (hook? effect).map (time, ·)

/-- The phases that the lifecycle passes through on a row of events, one after each event. -/
def phases (login : Login) (events : List Event) : List Lifecycle.Phase :=
  (Machine.passed timedStep login events).map (·.lifecycle.phase)

/-- An effect, if it is one of the lifecycle as a view shows it. -/
def Effect.through (view : Lifecycle.Effect → Option Lifecycle.Effect) : Effect → Option Effect
  | .lifecycle effect => (view effect).map .lifecycle
  | effect => some effect

/-- Effects with their times, those of the lifecycle as a view shows them. -/
def through (view : Lifecycle.Effect → Option Lifecycle.Effect) :
    List (Nat × Effect) → List (Nat × Effect) :=
  List.filterMap fun (time, effect) => (effect.through view).map (time, ·)

/-- The effects with their times, without the calls that have them. -/
def outward (effects : List (Nat × Effect)) : List (Nat × Effect) :=
  through Lifecycle.Effect.anonymous? effects

/-- No widget makes a request after it was told to stop. -/
def Obeyed (effects : List (Nat × Effect)) : Prop :=
  effects.Pairwise fun (_, earlier) (_, later) => ∀ widget request,
    earlier = .lifecycle (.abortWidget widget) → later ≠ .asks widget request

/-- Two rows of events are the same to whoever does not look at the calls of a login: the requests
and the hooks with their times, what comes of the attempts to return, and the page. -/
structure SameOutside (login : Login) (events others : List Event) : Prop where
  effects : outward (login.run events).2 = outward (login.run others).2
  requests : ∀ postsForms, login.requests postsForms (login.run events).2 =
    login.requests postsForms (login.run others).2
  hooks : hooks (login.run events).2 = hooks (login.run others).2
  attempts : login.lifecycleAttempts events = login.lifecycleAttempts others
  schedule : (login.run events).1.schedule = (login.run others).1.schedule
  returns : returnEffects (login.run events).2 = returnEffects (login.run others).2
  view : (login.run events).1.view = (login.run others).1.view

end Login

end DisclosureRelay
