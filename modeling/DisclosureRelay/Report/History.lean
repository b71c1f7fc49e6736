import DisclosureRelay.Report

/-!
# What a reporter did

Views of a row of events and of the effects it has: the calls that were made, what was posted and
requested, and how the calls ended. `reached` and `done` are where a row of events brings a new
reporter and what it does on the way, and `firstReply?` is what a call that posted is told.
-/

namespace DisclosureRelay.Reporter

/-- The reply that an event brings to a call. -/
def Event.replyTo? (id : ReportId) : Event → Option Http.Reply
  | .report _ _ => none
  | .replied other reply => if other = id then some reply else none

/-- What an effect posts, and for which call. -/
@[simp] def Effect.post? : Effect → Option (ReportId × String)
  | .post id body => some (id, body)
  | .finish _ _ => none

/-- The call that an effect ends, and how. -/
@[simp] def Effect.result? : Effect → Option (ReportId × Except Failure Bool)
  | .post _ _ => none
  | .finish id result => some (id, result)

/-- The first reply to a call in a row of events. -/
def firstReply? (id : ReportId) (events : List Event) : Option Http.Reply :=
  events.findSome? (Event.replyTo? id)

/-- A call is made in a row of events. -/
def Made (events : List Event) (id : ReportId) : Prop :=
  ∃ report, .report id report ∈ events

/-- What was posted, and for which calls. -/
def posts (effects : List Effect) : List (ReportId × String) :=
  effects.filterMap Effect.post?

/-- The calls that ended, and how. -/
def results (effects : List Effect) : List (ReportId × Except Failure Bool) :=
  effects.filterMap Effect.result?

/-- The requests of what was posted, where the address of reports can be asked. -/
def requests (url : String) (effects : List Effect) : List Http.Request :=
  (posts effects).filterMap fun (_, body) => (Http.postJson url body).toOption

/-- The reporter to which a row of events brings a new one. -/
def reached (url : String) (events : List Event) : Reporter :=
  (({ url } : Reporter).run events).1

/-- What a new reporter does on a row of events. -/
def done (url : String) (events : List Event) : List Effect :=
  (({ url } : Reporter).run events).2

@[simp] theorem posts_append (effects more : List Effect) :
    posts (effects ++ more) = posts effects ++ posts more :=
  List.filterMap_append

@[simp] theorem results_append (effects more : List Effect) :
    results (effects ++ more) = results effects ++ results more :=
  List.filterMap_append

theorem reached_concat (url : String) (events : List Event) (event : Event) :
    reached url (events ++ [event]) = ((reached url events).step event).1 := by
  simp only [reached, run, Machine.run_concat]

theorem done_concat (url : String) (events : List Event) (event : Event) :
    done url (events ++ [event]) = done url events ++ ((reached url events).step event).2 := by
  simp only [reached, done, run, Machine.run_concat]

/-- The first reply stays the first one. -/
theorem firstReply?_concat (id : ReportId) (events : List Event) (event : Event) :
    firstReply? id (events ++ [event]) = (firstReply? id events).or (event.replyTo? id) := by
  simp [firstReply?, List.findSome?_append]

end DisclosureRelay.Reporter
