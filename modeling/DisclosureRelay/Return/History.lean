import DisclosureRelay.Return.Schedule

/-!
# What attempts did

Views of what happens under the clock: the forms that an attempt submitted, the times at which it
told the page that returning failed, and how it ended. `Awaits` says that the time of a timer did
not come yet, `CancelledBefore` and `LeftBefore` what happened to an attempt before such a time, and
`Leaves` that its submission takes the user away at all.
-/

namespace DisclosureRelay.Return

namespace Attempt

/-- The form that was submitted. -/
@[simp] def Effect.form? : Effect → Option Form
  | .submit form => some form
  | .returningFailed => none

/-- Whether the page was told that returning failed. -/
@[simp] def Effect.isWarning : Effect → Bool
  | .submit _ => false
  | .returningFailed => true

end Attempt

namespace Schedule

/-- What an attempt did, with the times. -/
def own (id : AttemptId) (effects : List Effect) : List (Nat × Attempt.Effect) :=
  effects.filterMap fun effect => if effect.id = id then some (effect.time, effect.effect) else none

/-- The forms that an attempt submitted, with the times. -/
def submissions (id : AttemptId) (effects : List Effect) : List (Nat × Form) :=
  (own id effects).filterMap fun (time, effect) => effect.form?.map (time, ·)

/-- The times at which an attempt told the page that returning failed. -/
def warnings (id : AttemptId) (effects : List Effect) : List Nat :=
  (own id effects).filterMap fun (time, effect) => if effect.isWarning then some time else none

@[simp] theorem own_append (id : AttemptId) (effects more : List Effect) :
    own id (effects ++ more) = own id effects ++ own id more :=
  List.filterMap_append

/-- What one attempt did at a time is all its own. -/
theorem own_map (id other : AttemptId) (time : Nat) (effects : List Attempt.Effect) :
    own id (effects.map fun effect => { time, id := other, effect }) =
      if other = id then effects.map (time, ·) else [] := by
  unfold own
  rw [List.filterMap_map]
  show effects.filterMap (fun effect => if other = id then some (time, effect) else none) = _
  split <;> simp [*]

@[simp] theorem submissions_append (id : AttemptId) (effects more : List Effect) :
    submissions id (effects ++ more) = submissions id effects ++ submissions id more := by
  simp [submissions]

@[simp] theorem warnings_append (id : AttemptId) (effects more : List Effect) :
    warnings id (effects ++ more) = warnings id effects ++ warnings id more := by
  simp [warnings]

/-- When a timer of an attempt will be due, if it still runs. -/
def dueAt? (s : Schedule) (id : AttemptId) (timer : Timer) : Option Nat :=
  s.attempts[id]?.bind (·.dueAt? timer)

/-- A timer is served when it is due. -/
theorem step_due (s : Schedule) (id : AttemptId) (timer : Timer) :
    s.step (.due id timer) =
      if s.dueAt? id timer = some s.now then s.act id (.due timer) else (s, []) := rfl

/-- How an attempt ended, once its fallback is decided. -/
def outcome? (s : Schedule) (id : AttemptId) : Option (Except Failure Unit) :=
  s.attempts[id]?.bind (·.outcome?)

/-- The submission of an attempt is under way. -/
def Submitting (s : Schedule) (id : AttemptId) : Prop :=
  s.attempts[id]?.map (·.submission) = some .running

instance (s : Schedule) (id : AttemptId) : Decidable (s.Submitting id) :=
  inferInstanceAs (Decidable (_ = _))

/-- The time of a timer did not come yet: it is later, or it is now and the timer was not served. -/
def Awaits (s : Schedule) (id : AttemptId) (timer : Timer) (time : Nat) : Prop :=
  s.now < time ∨ s.now = time ∧ s.dueAt? id timer = some time

/-- An attempt is cancelled before the time of a timer. -/
def CancelledBefore (s : Schedule) (events : List Event) (id : AttemptId) (timer : Timer)
    (time : Nat) : Prop :=
  Machine.Meets step s events fun s event => event = .cancel id ∧ s.Awaits id timer time

/-- The submission of an attempt takes the user away before the time of the fallback. -/
def LeftBefore (s : Schedule) (events : List Event) (id : AttemptId) (time : Nat) : Prop :=
  Machine.Meets step s events fun s event =>
    event = .submitted id true ∧ s.Submitting id ∧ s.Awaits id .fallback time

/-- The submission of an attempt takes the user away on a row of events. -/
def Leaves (s : Schedule) (events : List Event) (id : AttemptId) : Prop :=
  Machine.Meets step s events fun s event => event = .submitted id true ∧ s.Submitting id

/-- Whether an event ends a submission of an attempt that is under way. -/
def Event.ends (id : AttemptId) : Event → Bool
  | .submitted other _ | .cancel other => other = id
  | .pass _ | .arm _ _ | .due _ _ => false

/-- Time passes as a row of events says: no timer that still runs is passed over. -/
def Timely (s : Schedule) (events : List Event) : Prop :=
  ¬Machine.Meets step s events fun s event =>
    ∃ milliseconds, event = .pass milliseconds ∧ ∃ time ∈ s.timers, time < s.now + milliseconds

end Schedule

end DisclosureRelay.Return
