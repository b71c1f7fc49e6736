import DisclosureRelay.Login.History
import Mathlib.Tactic.Lemma

/-!
# The lifecycle within a login

Whatever else happens to a login, its lifecycle does on a row of events what it does on its own
events alone: `run_lifecycle` says so of the state and of the effects. The attempts that it arms
carry the forms of the assertions with which it armed them.
-/

namespace DisclosureRelay.Login

/-- The page and the returns take in what the lifecycle does; the rest stays as it is. -/
lemma foldl_absorb (effects : List Lifecycle.Effect) (login : Login) :
    (effects.foldl absorb login).lifecycle = login.lifecycle ∧
      (effects.foldl absorb login).settings = login.settings ∧
      (effects.foldl absorb login).schedule.attempts = login.schedule.attempts ++
        (Lifecycle.armedReturns effects).map (.arm · login.settings login.now) := by
  induction effects generalizing login with
  | nil => simp [Lifecycle.armedReturns]
  | cons effect effects ih =>
    obtain ⟨lifecycle, settings, attempts⟩ := ih (login.absorb effect)
    rw [List.foldl_cons, lifecycle, settings, attempts]
    cases effect with
    | armReturn id assertion => simp [absorb, Return.Schedule.step, now]
    | _ => simp [absorb, now]

/-- Nothing that the attempts do concerns the lifecycle or the settings. -/
lemma foldl_notice (effects : List Return.Schedule.Effect) (login : Login) :
    (effects.foldl notice login).lifecycle = login.lifecycle ∧
      (effects.foldl notice login).settings = login.settings := by
  induction effects generalizing login with
  | nil => exact ⟨rfl, rfl⟩
  | cons effect effects ih =>
    obtain ⟨lifecycle, settings⟩ := ih (login.notice effect)
    rw [List.foldl_cons, lifecycle, settings]
    unfold notice
    split <;> exact ⟨rfl, rfl⟩

/-- A view of the effects of one part has all of them. -/
lemma filterMap_shown {Part : Type} {view : Nat × Effect → Option Part} {make : Part → Effect}
    {time : Nat} (shown : ∀ part, view (time, make part) = some part) (parts : List Part) :
    ((parts.map make).map (time, ·)).filterMap view = parts := by
  simp [List.filterMap_map, Function.comp_def, shown]

/-- A view of another part has none of them. -/
lemma filterMap_hidden {Part Other : Type} {view : Nat × Effect → Option Other}
    {make : Part → Effect} {time : Nat} (hidden : ∀ part, view (time, make part) = none)
    (parts : List Part) : ((parts.map make).map (time, ·)).filterMap view = [] := by
  simp [List.filterMap_map, Function.comp_def, hidden]

@[simp] lemma lifecycleEffects_append (effects more : List (Nat × Effect)) :
    lifecycleEffects (effects ++ more) = lifecycleEffects effects ++ lifecycleEffects more :=
  List.filterMap_append

/-- An event of the lifecycle takes it where it takes it alone. -/
lemma lifecycle_step (login : Login) (event : Lifecycle.Event) :
    (login.step (.lifecycle event)).1.lifecycle = (login.lifecycle.step event).1 :=
  (foldl_absorb ..).1

/-- An event of another part leaves the lifecycle alone. -/
lemma step_other (login : Login) {event : Event} (other : event.lifecycle? = none) :
    (login.step event).1.lifecycle = login.lifecycle ∧
      lifecycleEffects (login.timedStep event).2 = [] := by
  cases event with
  | lifecycle event => cases other
  | asks id request =>
    simp only [timedStep, step]
    split <;> exact ⟨rfl, rfl⟩
  | returns event => exact ⟨(foldl_notice ..).1, filterMap_hidden (fun _ => rfl) _⟩
  | report event => exact ⟨rfl, filterMap_hidden (fun _ => rfl) _⟩
  | hook hook => exact ⟨rfl, rfl⟩

/-- One event, as the lifecycle sees it. -/
lemma step_lifecycle (login : Login) (event : Event) :
    (login.step event).1.lifecycle = (login.lifecycle.run event.lifecycle?.toList).1 ∧
      lifecycleEffects (login.timedStep event).2 =
        (login.lifecycle.run event.lifecycle?.toList).2 := by
  cases event with
  | lifecycle event =>
    have effects : (login.lifecycle.run [event]).2 = (login.lifecycle.step event).2 :=
      List.append_nil _
    exact ⟨login.lifecycle_step event, (filterMap_shown (fun _ => rfl) _).trans effects.symm⟩
  | _ => exact login.step_other rfl

lemma run_cons (login : Login) (event : Event) (events : List Event) :
    login.run (event :: events) =
      (((login.step event).1.run events).1,
        (login.timedStep event).2 ++ ((login.step event).1.run events).2) := rfl

/-- The lifecycle of a login goes the way it goes on its own events. -/
theorem run_lifecycle (login : Login) (events : List Event) :
    (login.run events).1.lifecycle = (login.lifecycle.run (lifecycleEvents events)).1 ∧
      lifecycleEffects (login.run events).2 =
        (login.lifecycle.run (lifecycleEvents events)).2 := by
  induction events generalizing login with
  | nil => exact ⟨rfl, rfl⟩
  | cons event events ih =>
    obtain ⟨goes, does⟩ := login.step_lifecycle event
    obtain ⟨state, effects⟩ := ih (login.step event).1
    have own : lifecycleEvents (event :: events) =
        event.lifecycle?.toList ++ lifecycleEvents events := by
      cases event <;> rfl
    rw [run_cons, own, lifecycleEffects_append, state, effects, goes, does]
    simp only [Lifecycle.State.run, Machine.run_append, and_self]

/-- The settings are read and never changed. -/
lemma step_settings (login : Login) (event : Event) :
    (login.step event).1.settings = login.settings := by
  cases event with
  | lifecycle event => exact (foldl_absorb ..).2.1
  | asks id request =>
    unfold step
    dsimp only
    split <;> rfl
  | returns event => exact (foldl_notice ..).2
  | report | hook => rfl

/-- The attempt that an effect of the lifecycle arms, as it is at first. -/
def armed? (settings : Settings) : Nat × Effect → Option Return.Attempt
  | (time, .lifecycle (.armReturn _ assertion)) => some (.arm assertion settings time)
  | _ => none

/-- The attempts that an event arms are those of its effects. -/
lemma armedBy_eq (login : Login) (event : Event) :
    login.armedBy event = (login.timedStep event).2.filterMap (armed? login.settings) := by
  cases event with
  | lifecycle event =>
    obtain ⟨-, -, attempts⟩ := foldl_absorb (login.lifecycle.step event).2
      { login with lifecycle := (login.lifecycle.step event).1 }
    simp only [armedBy, timedStep, step, attempts, List.drop_left, Lifecycle.armedReturns,
      List.map_filterMap, List.filterMap_map]
    congr
    funext effect
    cases effect <;> rfl
  | asks id request =>
    simp only [armedBy, timedStep, step]
    split <;> rfl
  | returns event | report event =>
    simp only [armedBy, timedStep, step, List.filterMap_map]
    exact (List.filterMap_eq_nil_iff.2 fun _ _ => rfl).symm
  | hook hook => rfl

/-- The attempts that the lifecycle armed are those of its effects. -/
theorem lifecycleAttempts_eq (login : Login) (events : List Event) :
    login.lifecycleAttempts events = (login.run events).2.filterMap (armed? login.settings) := by
  induction events generalizing login with
  | nil => rfl
  | cons event events ih =>
    rw [run_cons, List.filterMap_append, lifecycleAttempts, ih, armedBy_eq, step_settings]

/-- An attempt that the lifecycle armed has the form of the assertion it was armed with. -/
theorem lifecycleAttempts_forms (login : Login) (events : List Event) :
    (login.lifecycleAttempts events).map (·.form) =
      (Lifecycle.armedReturns (lifecycleEffects (login.run events).2)).map .ofAssertion := by
  rw [lifecycleAttempts_eq, Lifecycle.armedReturns, lifecycleEffects, List.filterMap_filterMap,
    List.map_filterMap, List.map_filterMap]
  congr
  funext ⟨time, effect⟩
  cases effect with
  | lifecycle effect => cases effect <;> rfl
  | _ => rfl

end DisclosureRelay.Login
