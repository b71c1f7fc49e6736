import DisclosureRelay.Widget.Result

/-!
# What a widget that fetches results did

Views of a row of events and of what the widget does on it: the places it asked for the result, and
the first reply. `Aborted`, `Closed` and `Confirmed` say what came to a widget on a row of events,
whether its run noticed it or not, and `Apart` that no look of a run finds an abort and something in
the channel at once.
-/

namespace DisclosureRelay.Widget

/-- The place that is asked for the result. -/
@[simp] def ResultEffect.fetch? : ResultEffect → Option String
  | .fetch url => some url
  | .ended _ => none

/-- Whether an event is a look of the run. -/
@[simp] def ResultEvent.isLook : ResultEvent → Bool
  | .look _ => true
  | .confirm | .close | .abort | .start _ | .fetched _ => false

/-- The reply that an event brings. -/
@[simp] def ResultEvent.reply? : ResultEvent → Option Http.Reply
  | .fetched reply => some reply
  | .confirm | .close | .abort | .start _ | .look _ => none

namespace ResultWidget

/-- The places that were asked for the result. -/
def fetches (effects : List ResultEffect) : List String :=
  effects.filterMap ResultEffect.fetch?

/-- The end that the first reply of a row of events brings to a run that fetches the result. -/
def ending? (url : String) (events : List ResultEvent) : Option ResultEffect :=
  (events.findSome? ResultEvent.reply?).map fun reply => .ended (outcome url reply)

/-- A reply brings the whole body of an answer whose status tells of success. -/
def Brings (url : String) (reply : Http.Reply) (body : Http.Body) : Prop :=
  ∃ status, Http.Arrived url reply status (some body) ∧ 200 ≤ status ∧ status < 300

/-- No run is under way. -/
def Rests (widget : ResultWidget) : Prop :=
  ∀ url, widget.stage ≠ .waiting url ∧ widget.stage ≠ .fetching url

/-- No run is started on a row of events. -/
def Unstarted (events : List ResultEvent) : Prop :=
  ∀ url, .start url ∉ events

/-- The events around a run: what came before it, its start, and what came then. -/
def around (before : List ResultEvent) (url : String) (after : List ResultEvent) :
    List ResultEvent :=
  before ++ .start url :: after

/-- An abort came that no run noticed before. -/
def Aborted (widget : ResultWidget) (events : List ResultEvent) : Prop :=
  widget.permit = true ∨ .abort ∈ events

/-- The channel was closed. -/
def Closed (widget : ResultWidget) (events : List ResultEvent) : Prop :=
  widget.closed = true ∨ .close ∈ events

/-- A confirmation came before the channel was closed. -/
def Confirmed (widget : ResultWidget) (events : List ResultEvent) : Prop :=
  0 < widget.confirmations ∨
    ∃ before after, events = before ++ .confirm :: after ∧ ¬widget.Closed before

/-- A run looks at what came. -/
def Looks (events : List ResultEvent) : Prop :=
  ∃ event ∈ events, event.isLook = true

/-- No look of a run that waits finds an abort and something in the channel at once. -/
def Apart (widget : ResultWidget) (events : List ResultEvent) : Prop :=
  ¬Machine.Meets step widget events fun widget event =>
    event.isLook = true ∧ (∃ url, widget.stage = .waiting url) ∧ widget.permit = true ∧
      widget.Speaks

theorem around_append (before : List ResultEvent) (url : String) (pre post : List ResultEvent) :
    around before url (pre ++ post) = around before url pre ++ post := by
  simp [around]

theorem unstarted_append {events more : List ResultEvent} :
    Unstarted (events ++ more) ↔ Unstarted events ∧ Unstarted more := by
  simp only [Unstarted, List.mem_append, not_or, forall_and]

theorem unstarted_cons {event : ResultEvent} {events : List ResultEvent} :
    Unstarted (event :: events) ↔ (∀ url, event ≠ .start url) ∧ Unstarted events := by
  simp only [Unstarted, List.mem_cons, not_or, forall_and, ne_eq, eq_comm]

theorem run_append (widget : ResultWidget) (events more : List ResultEvent) :
    widget.run (events ++ more) =
      (((widget.run events).1.run more).1,
        (widget.run events).2 ++ ((widget.run events).1.run more).2) :=
  Machine.run_append ..

theorem run_cons (widget : ResultWidget) (event : ResultEvent) (events : List ResultEvent) :
    widget.run (event :: events) =
      (((widget.step event).1.run events).1,
        (widget.step event).2 ++ ((widget.step event).1.run events).2) :=
  Machine.run_cons ..

/-- After a row on which a widget does nothing, the events after it decide what it does. -/
theorem run_of_silent {widget : ResultWidget} {events : List ResultEvent}
    (silent : (widget.run events).2 = []) (more : List ResultEvent) :
    widget.run (events ++ more) = (widget.run events).1.run more := by
  rw [run_append, silent]
  rfl

end ResultWidget

end DisclosureRelay.Widget
