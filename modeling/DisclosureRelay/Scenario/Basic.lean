import DisclosureRelay.Http.Network
import DisclosureRelay.Login.Basic
import DisclosureRelay.Widget.Result

/-!
# Scenarios

A scenario plays a login against a scripted surrounding: a network, widgets that behave as told, a
navigator and a list of steps. This module holds what a scenario consists of (`Setup`, `Step`) and
what it shows after each step (`Record`). How it is played is in `DisclosureRelay.Scenario.World` and
`DisclosureRelay.Scenario.Play`.
-/

namespace DisclosureRelay.Scenario

open Lifecycle (CallId WidgetId)
open Return (AttemptId Form)
open Widget (Outcome)

/-- How a widget behaves. -/
inductive Behaviour where
  /-- It ends at once. -/
  | fixed (outcome : Outcome)
  /-- It ends with the first outcome that it is told, or that it has for an abort. -/
  | pending (onAbort : Option Outcome)
  /-- It fetches the result after a confirmation. -/
  | result (confirmed closed : Bool)

/-- A widget to be created; it may be told to abort before it is handed over. -/
structure WidgetPlan where
  behaviour : Behaviour
  preAbort : Bool

/-- How forms are submitted. -/
inductive Submitter where
  /-- Nothing is sent; the submission ends after a while, well or with a failure. -/
  | memory (delayMs : Nat) (failure : Option String)
  /-- The form is posted. -/
  | http
  /-- The page is written to a file, which may be impossible. -/
  | page (path : String) (writable : Bool)

/-- What a scenario is set in. -/
structure Setup where
  config : Session.Config
  network : Http.Network
  errorUrl : String
  settings : Settings
  hasError : Bool
  submitter : Submitter

/-- A step of a scenario. -/
inductive Step where
  | start (widget : WidgetPlan)
  | run (widget : WidgetPlan)
  /-- The interrupt of the latest run whose interrupt did not come yet. -/
  | interrupt
  /-- Tells an outcome to the widget that was created last. -/
  | resolve (outcome : Outcome)
  | confirm
  | closeConfirmations
  | handleError
  | abort
  /-- Arms a return outside of the lifecycle. -/
  | relay (assertion : Assertion)
  | cancel (attempt : AttemptId)
  /-- Waits for the outcome of an attempt. -/
  | outcome (attempt : AttemptId)
  /-- Reports the failure that a call ended with. -/
  | reportCall (call : CallId) (source : String)
  | report (report : Option Report)
  | hook (hook : Hook)
  | advance (milliseconds : Nat)

/-- How a call of a scenario ended. -/
inductive Result where
  | attempt (id : AttemptId) (form : Form)
  | superseded
  | settled
  | sent (posted : Bool)
  | failed (failure : Failure)

/-- What a widget did. -/
inductive WidgetNote where
  | start (handover : Widget.Handover)
  | abort
  | finish (outcome : Outcome)

/-- A form that was submitted, with the time and the result of the submission once it ended. -/
structure SubmissionNote where
  attempt : AttemptId
  time : Nat
  form : Form
  result : Option (Nat × Except String Unit)

/-- What was new in a step. -/
structure News where
  finished : List (CallId × Nat × Result) := []
  requests : List (Nat × Http.Request) := []
  hooks : List Hook := []
  widgets : List WidgetNote := []

/-- What a scenario shows after a step. -/
structure Record where
  login : Login
  news : News
  submissions : List SubmissionNote
  /-- The step asked for something that is not there, so that no call was made. -/
  unavailable : Bool

end DisclosureRelay.Scenario
