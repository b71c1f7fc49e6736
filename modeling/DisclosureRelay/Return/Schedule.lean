import DisclosureRelay.Machine
import DisclosureRelay.Return.Attempt

/-!
# Attempts and the clock

Any number of attempts under one clock. Time passes only up to the next timer that runs, and a timer
is served only when it is due, so that every timer is served at its time exactly. `Schedule.step` is
one event, and the effects carry the time and the attempt that they belong to.
-/

namespace DisclosureRelay.Return

/-- The number of an attempt. -/
abbrev AttemptId := Nat

/-- The attempts that were armed, in that order, and the time in milliseconds. -/
structure Schedule where
  now : Nat := 0
  attempts : List Attempt := []
  deriving DecidableEq

namespace Schedule

/-- What happens under the clock. -/
inductive Event where
  /-- So many milliseconds pass, unless a timer comes before. -/
  | pass (milliseconds : Nat)
  /-- An attempt is armed. -/
  | arm (assertion : Assertion) (settings : Settings)
  /-- A timer of an attempt is served. -/
  | due (id : AttemptId) (timer : Timer)
  /-- The submission of an attempt ended. -/
  | submitted (id : AttemptId) (ok : Bool)
  /-- An attempt is cancelled. -/
  | cancel (id : AttemptId)

/-- What an attempt does, and when. -/
structure Effect where
  time : Nat
  id : AttemptId
  effect : Attempt.Effect
  deriving DecidableEq

/-- The times at which timers will be due. -/
def timers (s : Schedule) : List Nat :=
  s.attempts.flatMap fun attempt =>
    (attempt.dueAt? .submit).toList ++ (attempt.dueAt? .fallback).toList

/-- Something happens to one attempt. -/
def act (s : Schedule) (id : AttemptId) (event : Attempt.Event) : Schedule × List Effect :=
  match s.attempts[id]? with
  | none => (s, [])
  | some attempt =>
    let (next, effects) := attempt.step event
    ({ s with attempts := s.attempts.set id next },
      effects.map fun effect => { time := s.now, id, effect })

/-- One event. -/
def step (s : Schedule) : Event → Schedule × List Effect
  | .pass milliseconds =>
    if s.timers.all fun time => s.now + milliseconds ≤ time then
      ({ s with now := s.now + milliseconds }, [])
    else (s, [])
  | .arm assertion settings =>
    ({ s with attempts := s.attempts ++ [Attempt.arm assertion settings s.now] }, [])
  | .due id timer =>
    if (s.attempts[id]?.bind (·.dueAt? timer)) = some s.now then s.act id (.due timer) else (s, [])
  | .submitted id ok => s.act id (.submitted ok)
  | .cancel id => s.act id .cancel

/-- A row of events. -/
def run (s : Schedule) (events : List Event) : Schedule × List Effect :=
  Machine.run step s events

end Schedule

end DisclosureRelay.Return
