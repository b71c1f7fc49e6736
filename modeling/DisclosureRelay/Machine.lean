/-!
# Rows of events

Much of a login is made of machines: on an event a machine moves to another state and does
something, its effects. `Machine.run` is what a machine does on a row of events, `Machine.passed` are
the states it passes through, and `Machine.Meets` says that it comes to an event and a state as told.
`run_append` takes a row apart, `run_induction` carries a property of a state and of the effects up
to there from each event to the next one, and `run_alike` carries a relation of two runs in the same
way.
-/

namespace DisclosureRelay.Machine

variable {State Event Effect : Type}

/-- Runs a machine on a row of events; the effects come in the order of the events. -/
def run (step : State → Event → State × List Effect) (state : State) :
    List Event → State × List Effect
  | [] => (state, [])
  | event :: events =>
    let (next, effects) := step state event
    let (last, more) := run step next events
    (last, effects ++ more)

/-- The states a machine passes through on a row of events, one after each event. -/
def passed (step : State → Event → State × List Effect) (state : State) :
    List Event → List State
  | [] => []
  | event :: events =>
    let next := (step state event).1
    next :: passed step next events

/-- On a row of events a machine comes to an event that it finds in a state as told. -/
def Meets (step : State → Event → State × List Effect) (state : State) (events : List Event)
    (P : State → Event → Prop) : Prop :=
  ∃ before event after, events = before ++ event :: after ∧ P (run step state before).1 event

variable (step : State → Event → State × List Effect)

@[simp] theorem run_nil (state : State) : run step state [] = (state, []) := rfl

theorem run_cons (state : State) (event : Event) (events : List Event) :
    run step state (event :: events) =
      ((run step (step state event).1 events).1,
        (step state event).2 ++ (run step (step state event).1 events).2) := rfl

/-- A row of events after another one goes on where that one ended. -/
theorem run_append (state : State) (events more : List Event) :
    run step state (events ++ more) =
      ((run step (run step state events).1 more).1,
        (run step state events).2 ++ (run step (run step state events).1 more).2) := by
  induction events generalizing state with
  | nil => rfl
  | cons event events ih => simp [run_cons, ih]

/-- The last event of a row. -/
theorem run_concat (state : State) (events : List Event) (event : Event) :
    run step state (events ++ [event]) =
      ((step (run step state events).1 event).1,
        (run step state events).2 ++ (step (run step state events).1 event).2) := by
  simp [run_append, run_cons]

/-- The states of a row of events come before those of the events after it. -/
theorem passed_append (state : State) (events more : List Event) :
    passed step state (events ++ more) =
      passed step state events ++ passed step (run step state events).1 more := by
  induction events generalizing state with
  | nil => rfl
  | cons event events ih => simp [passed, run_cons, ih]

@[simp] theorem meets_nil (state : State) (P : State → Event → Prop) : ¬Meets step state [] P := by
  rintro ⟨before, event, after, row, -⟩
  simp at row

/-- A machine comes to the first event of a row, or to one after it. -/
theorem meets_cons (state : State) (event : Event) (events : List Event)
    (P : State → Event → Prop) :
    Meets step state (event :: events) P ↔
      P state event ∨ Meets step (step state event).1 events P := by
  constructor
  · rintro ⟨_ | ⟨first, before⟩, met, after, row, holds⟩
    · obtain ⟨rfl, rfl⟩ := List.cons.inj row
      exact .inl holds
    · obtain ⟨rfl, rfl⟩ := List.cons.inj row
      exact .inr ⟨before, met, after, rfl, holds⟩
  · rintro (holds | ⟨before, met, after, rfl, holds⟩)
    · exact ⟨[], event, events, rfl, holds⟩
    · exact ⟨event :: before, met, after, rfl, holds⟩

/-- A machine comes to an event on a row, or with the last event of it. -/
theorem meets_concat (state : State) (events : List Event) (event : Event)
    (P : State → Event → Prop) :
    Meets step state (events ++ [event]) P ↔
      Meets step state events P ∨ P (run step state events).1 event := by
  constructor
  · rintro ⟨before, met, after, row, holds⟩
    obtain rfl | ⟨rest, last, rfl⟩ := List.eq_nil_or_concat after
    · obtain ⟨rfl, same⟩ := List.append_inj' row rfl
      cases same
      exact .inr holds
    · refine .inl ⟨before, met, rest, ?_, holds⟩
      rw [List.concat_eq_append, ← List.cons_append, ← List.append_assoc] at row
      exact (List.append_inj' row rfl).1
  · rintro (⟨before, met, after, rfl, holds⟩ | holds)
    · exact ⟨before, met, after ++ [event], by simp, holds⟩
    · exact ⟨events, event, [], rfl, holds⟩

/-- A property of a state and the effects so far that every event keeps holds after a whole row. -/
theorem run_induction {P : State → List Effect → Prop}
    (keep : ∀ state effects event, P state effects →
      P (step state event).1 (effects ++ (step state event).2))
    {state : State} (events : List Event) :
    ∀ {effects : List Effect}, P state effects →
      P (run step state events).1 (effects ++ (run step state events).2) := by
  induction events generalizing state with
  | nil =>
    intro effects h
    simpa using h
  | cons event events ih =>
    intro effects h
    have next := ih (keep state effects event h)
    rwa [List.append_assoc] at next

/-- Two runs on rows that correspond keep a relation of their states that every event keeps, and
they look alike where related states and the effects of every event do. -/
theorem run_alike {Look View : Type} {R : State → State → Prop} {look : State → Look}
    {view : Effect → Option View} {rename : Event → Event} {Usable : Event → Prop}
    {Allowed : Effect → Prop} (looks : ∀ s t, R s t → look s = look t)
    (keep : ∀ s t event, R s t → Usable event →
      (∀ effect ∈ (step t (rename event)).2, Allowed effect) →
      R (step s event).1 (step t (rename event)).1 ∧
        (step s event).2.filterMap view = (step t (rename event)).2.filterMap view)
    {s t : State} {events : List Event} (related : R s t) (usable : ∀ event ∈ events, Usable event)
    (allowed : ∀ effect ∈ (run step t (events.map rename)).2, Allowed effect) :
    R (run step s events).1 (run step t (events.map rename)).1 ∧
      (run step s events).2.filterMap view =
        (run step t (events.map rename)).2.filterMap view ∧
      (passed step s events).map look = (passed step t (events.map rename)).map look := by
  induction events generalizing s t with
  | nil => exact ⟨related, rfl, rfl⟩
  | cons event events ih =>
    simp only [List.map_cons, run_cons, List.mem_append] at allowed
    obtain ⟨next, effects⟩ := keep s t event related (usable event List.mem_cons_self)
      fun effect mem => allowed effect (.inl mem)
    obtain ⟨last, more, states⟩ := ih next (fun event mem => usable event (.tail _ mem))
      fun effect mem => allowed effect (.inr mem)
    simp only [List.map_cons, run_cons, passed, List.filterMap_append, effects, more, states,
      looks _ _ next]
    exact ⟨last, trivial, trivial⟩

end DisclosureRelay.Machine
