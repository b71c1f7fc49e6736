import DisclosureRelay.Failure
import DisclosureRelay.Return.Form
import DisclosureRelay.Settings
import DisclosureRelay.View

/-!
# Return attempts

An attempt to return the user has two timers that are set at the same moment: when the first is due
the form is submitted, and when the second, the fallback, is due the return counts as failed. A
submission that ended well disarms the fallback; one that failed or is still running does not.
Cancelling an attempt drops whatever of it is still to come.

`Attempt.step` is one event. The times at which events come are kept by
`DisclosureRelay.Return.Schedule`.
-/

namespace DisclosureRelay.Return

/-- How far the submission of the form has come. -/
inductive Submission where
  | scheduled
  | running
  /-- The user left the page. -/
  | left
  | failed
  | dropped
  deriving DecidableEq

/-- How far the fallback has come. -/
inductive Fallback where
  | armed
  | disarmed
  | fired
  | dropped
  deriving DecidableEq

/-- An attempt to return the user. The times are in milliseconds. -/
structure Attempt where
  form : Form
  submitAt : Nat
  fallbackAt : Nat
  submission : Submission := .scheduled
  fallback : Fallback := .armed
  deriving DecidableEq

/-- The timers of an attempt. -/
inductive Timer where
  | submit
  | fallback
  deriving DecidableEq

namespace Attempt

/-- What happens to an attempt. -/
inductive Event where
  | due (timer : Timer)
  | submitted (ok : Bool)
  | cancel
  deriving DecidableEq

/-- What an attempt does. -/
inductive Effect where
  | submit (form : Form)
  | returningFailed
  deriving DecidableEq

/-- The attempt with an assertion that is armed now. -/
def arm (assertion : Assertion) (settings : Settings) (now : Nat) : Attempt :=
  { form := Form.ofAssertion assertion
    submitAt := now + settings.submitDelayMs
    fallbackAt := now + settings.fallbackTimeoutMs }

/-- When a timer will be due, if it still runs. -/
def dueAt? (attempt : Attempt) : Timer → Option Nat
  | .submit => if attempt.submission = .scheduled then some attempt.submitAt else none
  | .fallback => if attempt.fallback = .armed then some attempt.fallbackAt else none

/-- One event. -/
def step (attempt : Attempt) : Event → Attempt × List Effect
  | .due .submit =>
    match attempt.submission with
    | .scheduled => ({ attempt with submission := .running }, [.submit attempt.form])
    | _ => (attempt, [])
  | .due .fallback =>
    match attempt.fallback with
    | .armed => ({ attempt with fallback := .fired }, [.returningFailed])
    | _ => (attempt, [])
  | .submitted true =>
    match attempt.submission with
    | .running =>
      ({ attempt with
          submission := .left
          fallback := if attempt.fallback = .armed then .disarmed else attempt.fallback }, [])
    | _ => (attempt, [])
  | .submitted false =>
    match attempt.submission with
    | .running => ({ attempt with submission := .failed }, [])
    | _ => (attempt, [])
  | .cancel =>
    ({ attempt with
        submission :=
          match attempt.submission with
          | .scheduled | .running => .dropped
          | other => other
        fallback := if attempt.fallback = .armed then .dropped else attempt.fallback }, [])

/-- How an attempt ended, once its fallback is decided. -/
def outcome? (attempt : Attempt) : Option (Except Failure Unit) :=
  match attempt.fallback with
  | .armed => none
  | .fired => some (.error .returnTimeout)
  | .disarmed | .dropped => some (.ok ())

end Attempt

end DisclosureRelay.Return
