import DisclosureRelay.Http.Message
import DisclosureRelay.Machine
import DisclosureRelay.Widget.Basic

/-!
# The widget that fetches the result

A widget without a screen: it waits for a confirmation that the app is done and then fetches the
signed result, which is the token. Confirmations come through a channel that holds some of them and
can be closed; an abort leaves a permit that the waiting run takes.

`ResultWidget.step` is one event. A run notices what came only when it looks, so that events may
pile up in between; of an abort and a channel that has something, the look says which is taken.
-/

namespace DisclosureRelay.Widget

/-- How far the run of a widget has come. -/
inductive ResultStage where
  | idle
  | waiting (url : String)
  | fetching (url : String)
  | ended (outcome : Outcome)
  deriving DecidableEq

/-- The state of a widget: whether an abort was not noticed yet, how many confirmations the channel
has room for and how many it holds, whether it was closed, and the run. -/
structure ResultWidget where
  permit : Bool := false
  room : Nat := 1
  room_pos : 0 < room := by exact Nat.one_pos
  confirmations : Nat := 0
  closed : Bool := false
  stage : ResultStage := .idle
  deriving DecidableEq

/-- What a run waits for before it fetches the result. -/
inductive Signal where
  | abort
  | channel
  deriving DecidableEq

/-- What happens to a widget. -/
inductive ResultEvent where
  | confirm
  | close
  | abort
  | start (url : String)
  /-- The run looks at what came, and takes `first` if both signals are there. -/
  | look (first : Signal := .abort)
  | fetched (reply : Http.Reply)

/-- What a widget does: it asks for the result, or ends. -/
inductive ResultEffect where
  | fetch (url : String)
  | ended (outcome : Outcome)
  deriving DecidableEq

namespace ResultWidget

/-- The request for the result. -/
def request (url : String) : Except Http.Fault Http.Request :=
  Http.prepare .get url none ""

/-- The outcome that the reply to the request for the result brings. -/
def outcome (url : String) (reply : Http.Reply) : Outcome :=
  match Http.received url reply with
  | .error _ => .failed "Failed to fetch session result"
  | .ok (status, body) =>
    if Http.isSuccess status then
      match body with
      | some body => .completed body.text
      | none => .failed "Failed to read session result"
    else .failed ("Session result endpoint returned " ++ Http.statusText status)

/-- Ends the run. -/
def finish (widget : ResultWidget) (outcome : Outcome) : ResultWidget × List ResultEffect :=
  ({ widget with stage := .ended outcome }, [.ended outcome])

/-- The run takes what the channel has: a confirmation as long as there is one, and then that it was
closed. -/
def receive (widget : ResultWidget) (url : String) : ResultWidget × List ResultEffect :=
  if 0 < widget.confirmations then
    ({ widget with confirmations := widget.confirmations - 1, stage := .fetching url },
      [.fetch url])
  else if widget.closed then widget.finish (.failed "Confirmation source closed")
  else (widget, [])

/-- The channel has something for the run. -/
def Speaks (widget : ResultWidget) : Prop :=
  0 < widget.confirmations ∨ widget.closed = true

instance (widget : ResultWidget) : Decidable widget.Speaks :=
  inferInstanceAs (Decidable (_ ∨ _))

/-- The run looks at what came while it waited. -/
def look (widget : ResultWidget) (first : Signal) (url : String) :
    ResultWidget × List ResultEffect :=
  if widget.permit = true ∧ (first = .abort ∨ ¬widget.Speaks) then
    { widget with permit := false }.finish .aborted
  else widget.receive url

/-- One event. A confirmation that finds the channel full or closed is lost, and a widget whose run
is under way is not started again. -/
def step (widget : ResultWidget) : ResultEvent → ResultWidget × List ResultEffect
  | .confirm =>
    if widget.closed ∨ widget.room ≤ widget.confirmations then (widget, [])
    else ({ widget with confirmations := widget.confirmations + 1 }, [])
  | .close => ({ widget with closed := true }, [])
  | .abort => ({ widget with permit := true }, [])
  | .start url =>
    match widget.stage with
    | .idle | .ended _ => ({ widget with stage := .waiting url }, [])
    | .waiting _ | .fetching _ => (widget, [])
  | .look first =>
    match widget.stage with
    | .waiting url => widget.look first url
    | _ => (widget, [])
  | .fetched reply =>
    match widget.stage with
    | .fetching url => widget.finish (outcome url reply)
    | _ => (widget, [])

/-- A row of events. -/
def run (widget : ResultWidget) (events : List ResultEvent) : ResultWidget × List ResultEffect :=
  Machine.run step widget events

end ResultWidget

end DisclosureRelay.Widget
