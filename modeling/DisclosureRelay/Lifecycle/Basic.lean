import DisclosureRelay.Assertion.Exchange
import DisclosureRelay.View
import DisclosureRelay.Widget.Basic

/-!
# The state of a login

A login is driven by calls, which run side by side. `Phase` is where the login as a whole stands,
`Stage` what one call waits for, and `State` both together with the widget that is registered for
an abort. `Event` is what can happen and `Effect` what a login does; the rules are in
`DisclosureRelay.Lifecycle.Step`.
-/

namespace DisclosureRelay.Lifecycle

/-- Where a login stands. -/
inductive Phase where
  | idle
  | starting
  | succeeded
  | erroring
  | aborting
  deriving DecidableEq

/-- Whether one of the calls has taken it upon itself to return the user. -/
def Phase.isTerminal : Phase → Bool
  | .idle | .starting => false
  | .succeeded | .erroring | .aborting => true

/-- The name of a phase in logs. -/
def Phase.name : Phase → String
  | .idle => "Idle"
  | .starting => "Starting"
  | .succeeded => "Succeeded"
  | .erroring => "Erroring"
  | .aborting => "Aborting"

/-- The number of a widget. -/
abbrev WidgetId := Nat

/-- The number of a call. -/
abbrev CallId := Nat

/-- A call of a login. -/
inductive Entry where
  /-- Runs a widget and relays what comes of it. -/
  | start (widget : WidgetId)
  /-- Does the same until an interrupt comes, and aborts then. A run that finds its interrupt there
  before it starts anything does what an abort does. -/
  | run (widget : WidgetId)
  /-- Returns the user with an error. -/
  | handleError
  /-- Returns the user with an abort. -/
  | abort
  deriving DecidableEq

/-- How a call ends. -/
inductive Ending where
  /-- Another call returns the user, or did. -/
  | superseded
  /-- This call armed a return with an assertion. -/
  | returning (assertion : Assertion)
  /-- This call could not return the user. -/
  | failed (failure : Failure)
  deriving DecidableEq

/-- What a call waits for. -/
inductive Stage where
  /-- The end of the widget it started. -/
  | atWidget (widget : WidgetId)
  /-- The reply to an exchange. -/
  | atExchange (exchange : Exchange)
  /-- The reply to the abort exchange of its own interrupt; what it waited for before is put aside. -/
  | interrupted
  /-- Nothing any more. -/
  | ended (ending : Ending)
  deriving DecidableEq

/-- What became of the interrupt of a call. -/
inductive Interrupt where
  /-- The call has none. -/
  | none
  /-- It may still come. -/
  | open
  /-- It came. -/
  | taken
  deriving DecidableEq

/-- A call under way. -/
structure Call where
  interrupt : Interrupt
  stage : Stage
  deriving DecidableEq

/-- The state of a login. -/
structure State where
  config : Session.Config
  phase : Phase
  /-- The widget that an abort is to stop. -/
  registered : Option WidgetId
  /-- The calls that were made, by their numbers. -/
  calls : CallId → Option Call

/-- What can happen to a login. -/
inductive Event where
  /-- A call is made under a number that is not in use. -/
  | call (id : CallId) (entry : Entry)
  /-- The widget that a call started ended. -/
  | widgetEnded (id : CallId) (outcome : Widget.Outcome)
  /-- The exchange that a call began was replied to, or not in time. -/
  | replied (id : CallId) (reply : Http.Reply)
  /-- The interrupt of a call comes. -/
  | interrupt (id : CallId)

/-- What a login does. -/
inductive Effect where
  | startWidget (id : CallId) (widget : WidgetId) (handover : Widget.Handover)
  | abortWidget (widget : WidgetId)
  | hook (hook : Hook)
  | beginExchange (id : CallId) (exchange : Exchange)
  | armReturn (id : CallId) (assertion : Assertion)
  | finish (id : CallId) (ending : Ending)

namespace State

/-- A login before any call. -/
def initial (config : Session.Config) : State :=
  { config, phase := .idle, registered := none, calls := fun _ => none }

/-- The stage of a call. -/
def stage? (s : State) (id : CallId) : Option Stage :=
  (s.calls id).map (·.stage)

/-- Puts a call at a stage; a call that was not there before has no interrupt. -/
def moveTo (s : State) (id : CallId) (stage : Stage) : State :=
  { s with
    calls := fun other =>
      if other = id then some { interrupt := ((s.calls id).map (·.interrupt)).getD .none, stage }
      else s.calls other }

/-- Notes what became of the interrupt of a call. -/
def mark (s : State) (id : CallId) (interrupt : Interrupt) : State :=
  { s with
    calls := fun other =>
      if other = id then (s.calls id).map fun call => { call with interrupt } else s.calls other }

@[simp] theorem moveTo_phase (s : State) (id : CallId) (stage : Stage) :
    (s.moveTo id stage).phase = s.phase := rfl

@[simp] theorem moveTo_config (s : State) (id : CallId) (stage : Stage) :
    (s.moveTo id stage).config = s.config := rfl

@[simp] theorem moveTo_registered (s : State) (id : CallId) (stage : Stage) :
    (s.moveTo id stage).registered = s.registered := rfl

@[simp] theorem mark_phase (s : State) (id : CallId) (interrupt : Interrupt) :
    (s.mark id interrupt).phase = s.phase := rfl

@[simp] theorem mark_config (s : State) (id : CallId) (interrupt : Interrupt) :
    (s.mark id interrupt).config = s.config := rfl

@[simp] theorem mark_registered (s : State) (id : CallId) (interrupt : Interrupt) :
    (s.mark id interrupt).registered = s.registered := rfl

@[simp] theorem moveTo_calls (s : State) (id other : CallId) (stage : Stage) :
    (s.moveTo id stage).calls other =
      if other = id then some ⟨((s.calls id).map (·.interrupt)).getD .none, stage⟩
      else s.calls other := rfl

@[simp] theorem mark_calls (s : State) (id other : CallId) (interrupt : Interrupt) :
    (s.mark id interrupt).calls other =
      if other = id then (s.calls id).map fun call => { call with interrupt }
      else s.calls other := rfl

/-- Only the call that is moved changes its stage. -/
theorem stage?_moveTo (s : State) (id other : CallId) (stage : Stage) :
    (s.moveTo id stage).stage? other = if other = id then some stage else s.stage? other := by
  by_cases h : other = id <;> simp [stage?, moveTo, h]

/-- An interrupt that is noted moves no call. -/
@[simp] theorem stage?_mark (s : State) (id other : CallId) (interrupt : Interrupt) :
    (s.mark id interrupt).stage? other = s.stage? other := by
  by_cases h : other = id
  · subst h
    cases eq : s.calls other <;> simp [stage?, mark, eq]
  · simp [stage?, mark, h]

end State

end DisclosureRelay.Lifecycle
