import DisclosureRelay.Proofs.Lifecycle.Hooks
import DisclosureRelay.Proofs.Login.Alike
import DisclosureRelay.Proofs.Login.Returns
import DisclosureRelay.Proofs.Return.Timers

/-!
# The page of a login

What the page shows is what the hooks make of it that were called, by the lifecycle or by an attempt
whose fallback fired (`run_view`). The calls that failed and the fallbacks that fired are as many as
the hooks that tell of a failed return, so that `page_of_login` reads the screen off the calls and
the attempts.
-/

namespace DisclosureRelay

namespace Return.Schedule

/-- How many attempts there are whose fallback fired. -/
def fired (s : Schedule) : Nat :=
  s.attempts.countP (·.fallback = .fired)

/-- How often attempts told the page that returning failed. -/
def warned (effects : List Effect) : Nat :=
  effects.countP (·.effect.isWarning)

@[simp] lemma warned_append (effects more : List Effect) :
    warned (effects ++ more) = warned effects + warned more :=
  List.countP_append

/-- An attempt tells the page when its fallback fires, and does not take that back. -/
lemma fired_attempt (attempt : Attempt) (event : Attempt.Event) :
    (if (attempt.step event).1.fallback = .fired then 1 else 0) =
      (if attempt.fallback = .fired then 1 else 0) +
        (attempt.step event).2.countP Attempt.Effect.isWarning := by
  cases event with
  | due timer =>
    cases timer with
    | submit => cases stage : attempt.submission <;> simp [Attempt.step, stage]
    | fallback => cases stage : attempt.fallback <;> simp [Attempt.step, stage]
  | submitted ok =>
    have disarmed : (if attempt.fallback = .armed then .disarmed else attempt.fallback) =
        Fallback.fired ↔ attempt.fallback = .fired := by
      split <;> simp_all
    cases ok <;> cases stage : attempt.submission <;> simp [Attempt.step, stage, disarmed]
  | cancel =>
    have dropped : (if attempt.fallback = .armed then .dropped else attempt.fallback) =
        Fallback.fired ↔ attempt.fallback = .fired := by
      split <;> simp_all
    simp [Attempt.step, dropped]

/-- What happens to one attempt changes nothing of the others. -/
lemma fired_act (s : Schedule) (id : AttemptId) (event : Attempt.Event) :
    (s.act id event).1.fired = s.fired + warned (s.act id event).2 := by
  unfold act
  split
  · rfl
  · next attempt found =>
    obtain ⟨inside, here⟩ := List.getElem?_eq_some_iff.1 found
    have own := fired_attempt attempt event
    have among : (if attempt.fallback = .fired then 1 else 0) ≤ s.fired := by
      split
      · next fires => exact List.countP_pos_iff.2 ⟨attempt, List.mem_of_getElem? found, by simp [fires]⟩
      · exact Nat.zero_le _
    have told : warned ((attempt.step event).2.map fun effect => ⟨s.now, id, effect⟩) =
        (attempt.step event).2.countP Attempt.Effect.isWarning := List.countP_map
    have others : Schedule.fired { s with attempts := s.attempts.set id (attempt.step event).1 } =
        s.fired - (if attempt.fallback = .fired then 1 else 0) +
          (if (attempt.step event).1.fallback = .fired then 1 else 0) := by
      simp only [fired, List.countP_set inside, here, decide_eq_true_eq]
    show Schedule.fired _ = s.fired + warned _
    rw [others, told]
    omega

/-- The attempts whose fallback fires on an event tell the page so. -/
lemma fired_step (s : Schedule) (event : Event) :
    (s.step event).1.fired = s.fired + warned (s.step event).2 := by
  cases event with
  | pass milliseconds =>
    simp only [step]
    split <;> rfl
  | arm assertion settings => simp [step, fired, warned, Attempt.arm]
  | due id timer =>
    rw [step_due]
    split
    · exact s.fired_act id _
    · rfl
  | submitted id ok => exact s.fired_act id _
  | cancel id => exact s.fired_act id _

/-- There are as many attempts whose fallback fired as the page was told. -/
theorem fired_run (events : List Event) : (run {} events).1.fired = warned (run {} events).2 := by
  show (run {} events).1.fired = warned ([] ++ (run {} events).2)
  refine Machine.run_induction (P := fun s effects => s.fired = warned effects) step ?_ events rfl
  intro s effects event same
  rw [fired_step, same, warned_append]

end Return.Schedule

/-- The page remembers which hooks were called, and nothing else of it changes. -/
lemma View.foldl_call (called : List Hook) (view : View) :
    called.foldl View.call view =
      { hasError := view.hasError || decide (.onError ∈ called)
        returningFailed := view.returningFailed || decide (.onReturningFailed ∈ called)
        supportContact := view.supportContact } := by
  induction called generalizing view with
  | nil => simp
  | cons hook called ih =>
    rw [List.foldl_cons, ih]
    cases hook <;> simp [View.call]

namespace Login

open Return (Schedule)

/-- The hook that an event calls from outside. -/
def Event.hook? : Event → Option Hook
  | .hook called => some called
  | _ => none

/-- The hooks that are called on an event, from outside or by what the event brings about. -/
def calledBy (login : Login) (event : Event) : List Hook :=
  event.hook?.toList ++ (hooks (login.timedStep event).2).map (·.2)

@[simp] lemma hooks_append (effects more : List (Nat × Effect)) :
    hooks (effects ++ more) = hooks effects ++ hooks more :=
  List.filterMap_append

lemma hooks_lifecycle (time : Nat) (effects : List Lifecycle.Effect) :
    (hooks ((effects.map Effect.lifecycle).map (time, ·))).map (·.2) = Lifecycle.hooks effects := by
  induction effects with
  | nil => rfl
  | cons effect effects ih =>
    cases effect with
    | hook called => exact congrArg (called :: ·) ih
    | _ => exact ih

/-- The page takes in the hooks that the lifecycle calls. -/
lemma foldl_absorb_view (effects : List Lifecycle.Effect) (login : Login) :
    (effects.foldl absorb login).view = (Lifecycle.hooks effects).foldl View.call login.view := by
  induction effects generalizing login with
  | nil => rfl
  | cons effect effects ih =>
    rw [List.foldl_cons, ih]
    cases effect <;> rfl

/-- The page takes in the hooks that the attempts call. -/
lemma foldl_notice_view (time : Nat) (effects : List Schedule.Effect) (login : Login) :
    (effects.foldl notice login).view =
      ((hooks ((effects.map Effect.returns).map (time, ·))).map (·.2)).foldl View.call
        login.view := by
  induction effects generalizing login with
  | nil => rfl
  | cons effect effects ih =>
    obtain ⟨at', id, does⟩ := effect
    rw [List.foldl_cons, ih]
    cases does <;> rfl

/-- The page after an event is what the hooks make of it that the event calls. -/
lemma step_view (login : Login) (event : Event) :
    (login.step event).1.view = (login.calledBy event).foldl View.call login.view := by
  cases event with
  | lifecycle event =>
    have called : login.calledBy (.lifecycle event) =
        Lifecycle.hooks (login.lifecycle.step event).2 := hooks_lifecycle ..
    rw [called]
    exact foldl_absorb_view ..
  | returns event => exact foldl_notice_view ..
  | asks id request =>
    simp only [calledBy, timedStep, step]
    split <;> rfl
  | report event =>
    have none : hooks (login.timedStep (.report event)).2 = [] := filterMap_hidden (fun _ => rfl) _
    rw [calledBy, none]
    rfl
  | hook hook => rfl

/-- The page after a row of events is what hooks make of it, and what the hooks make of it that the
login called if none was called from outside. -/
lemma run_view (login : Login) (events : List Event) :
    ∃ called, (login.run events).1.view = called.foldl View.call login.view ∧
      ((∀ hook, .hook hook ∉ events) → called = (hooks (login.run events).2).map (·.2)) := by
  induction events generalizing login with
  | nil => exact ⟨[], rfl, fun _ => rfl⟩
  | cons event events ih =>
    obtain ⟨called, view, all⟩ := ih (login.step event).1
    refine ⟨login.calledBy event ++ called, ?_, fun inside => ?_⟩
    · rw [run_cons, view, step_view, List.foldl_append]
    · have own : login.calledBy event = (hooks (login.timedStep event).2).map (·.2) := by
        cases event with
        | hook hook => exact absurd List.mem_cons_self (inside hook)
        | _ => rfl
      rw [run_cons, hooks_append, List.map_append, own,
        all fun hook mem => inside hook (.tail _ mem)]

/-- The hooks that tell of a failed return are called by the lifecycle and by the attempts. -/
lemma count_hooks (effects : List (Nat × Effect)) :
    ((hooks effects).map (·.2)).count .onReturningFailed =
      (Lifecycle.hooks (lifecycleEffects effects)).count .onReturningFailed +
        Schedule.warned (returnEffects effects) := by
  induction effects with
  | nil => rfl
  | cons timed effects ih =>
    have first : timed :: effects = [timed] ++ effects := rfl
    rw [first, hooks_append, lifecycleEffects_append, returnEffects_append, List.map_append,
      List.count_append, ih, Lifecycle.hooks_append, List.count_append, Schedule.warned_append]
    obtain ⟨time, effect⟩ := timed
    have own : ((hooks [(time, effect)]).map (·.2)).count .onReturningFailed =
        (Lifecycle.hooks (lifecycleEffects [(time, effect)])).count .onReturningFailed +
          Schedule.warned (returnEffects [(time, effect)]) := by
      cases effect with
      | lifecycle effect => cases effect <;> rfl
      | returns effect =>
        obtain ⟨at', id, does⟩ := effect
        cases does <;> rfl
      | asks | report => rfl
    omega

/-- A login that returned the user without a result once does so ever after. -/
lemma unsuccessful_run (config : Session.Config) (settings : Settings) (errorUrl : String)
    (hasError : Bool) (events : List Event) :
    let login := initial config settings errorUrl hasError
    (∃ phase ∈ login.phases events, phase = .erroring ∨ phase = .aborting) ↔
      (login.run events).1.lifecycle.phase.isUnsuccessful = true := by
  intro login
  induction events using List.reverseRecOn with
  | nil => exact ⟨nofun, nofun⟩
  | append_singleton events event ih =>
    have last : login.phases (events ++ [event]) =
        login.phases events ++ [(login.run (events ++ [event])).1.lifecycle.phase] := by
      rw [phases_append, run_append, run_one]
      rfl
    have kept : (login.run events).1.lifecycle.phase.isUnsuccessful = true →
        (login.run (events ++ [event])).1.lifecycle.phase.isUnsuccessful = true := by
      intro unsuccessful
      rw [run_append, run_one]
      have reaches : (login.run events).1.lifecycle = Lifecycle.reached config (lifecycleEvents events) :=
        (login.run_lifecycle events).1
      cases event with
      | lifecycle event =>
        have standing := Lifecycle.standing_reached config (lifecycleEvents events)
        rw [← reaches] at standing
        obtain same | moves := standing.phase_step (Lifecycle.State.step_move _ event)
        · rw [lifecycle_step, same, unsuccessful]
        · simp [moves.isUnsuccessful] at unsuccessful
      | _ => rwa [((login.run events).1.step_other rfl).1]
    rw [last]
    simp only [List.mem_append, List.mem_singleton, or_and_right, exists_or, ih, exists_eq_left]
    rw [← Lifecycle.Phase.isUnsuccessful_iff]
    exact ⟨fun ever => ever.elim kept id, .inr⟩

/-- Some fallback fired if an attempt ended with a failed return. -/
lemma fired_pos_iff (s : Schedule) :
    0 < s.fired ↔ ∃ id, s.outcome? id = some (.error .returnTimeout) := by
  rw [Schedule.fired, List.countP_pos_iff]
  constructor
  · rintro ⟨attempt, mem, fires⟩
    obtain ⟨id, found⟩ := List.mem_iff_getElem?.1 mem
    refine ⟨id, ?_⟩
    rw [Schedule.outcome?_eq found, Schedule.outcome?_fired]
    simpa using fires
  · rintro ⟨id, ended⟩
    obtain ⟨attempt, found, ended⟩ := Option.bind_eq_some_iff.1 ended
    refine ⟨attempt, List.mem_of_getElem? found, ?_⟩
    simpa using Schedule.outcome?_fired.1 ended

/-- The screen shows the widget as long as nothing tells it of an error. -/
lemma screen_eq_widget {view : View} :
    view.screen = .widget ↔ view.hasError = false ∧ view.returningFailed = false := by
  unfold View.screen
  split
  · simp [*]
  · split <;> simp_all

/-- The contact is shown once returning failed. -/
lemma screen_contact? (view : View) :
    view.screen.contact? = if view.returningFailed then some view.supportContact else none := by
  unfold View.screen
  split
  · rfl
  · split <;> rfl

/-- Whatever hooks are called, an error stays on the screen, and so does the contact. -/
lemma screen_foldl_call (view : View) (called : List Hook) :
    (view.screen ≠ .widget → (called.foldl View.call view).screen ≠ .widget) ∧
      ∀ contact, view.screen.contact? = some contact →
        (called.foldl View.call view).screen.contact? = some contact := by
  rw [View.foldl_call]
  constructor
  · intro error widget
    obtain ⟨quiet, returned⟩ := screen_eq_widget.1 widget
    refine error (screen_eq_widget.2 ?_)
    simp_all
  · intro contact shows
    rw [screen_contact?] at shows ⊢
    split at shows
    · next failed => simpa [failed] using shows
    · cases shows

/-- The page of a new login of which no hook was called from outside. -/
lemma view_inside (config : Session.Config) (settings : Settings) (errorUrl : String)
    (hasError : Bool) {events : List Event} (inside : ∀ hook, .hook hook ∉ events) :
    let login := initial config settings errorUrl hasError
    let called : List Hook := (hooks (login.run events).2).map (·.2)
    (login.run events).1.view =
      { hasError := hasError || decide (.onError ∈ called)
        returningFailed := decide (.onReturningFailed ∈ called)
        supportContact := settings.supportContact } := by
  intro login called
  obtain ⟨_, view, all⟩ := login.run_view events
  rw [view, all inside, View.foldl_call]
  rfl

/-- A failed return is told to the page for each call that failed and each fallback that fired. -/
lemma count_returningFailed (config : Session.Config) (settings : Settings) (errorUrl : String)
    (hasError : Bool) (events : List Event) :
    let login := initial config settings errorUrl hasError
    ((hooks (login.run events).2).map (·.2)).count .onReturningFailed =
      (Lifecycle.failedCalls (lifecycleEffects (login.run events).2)).length +
        (login.run events).1.schedule.fired := by
  intro login
  have does : lifecycleEffects (login.run events).2 =
      Lifecycle.done config (lifecycleEvents events) :=
    (login.run_lifecycle events).2
  obtain ⟨row, schedule, warns⟩ := login.run_schedule events
  have warned : Schedule.warned (returnEffects (login.run events).2) =
      (login.run events).1.schedule.fired := by
    rw [warns, schedule]
    exact (Schedule.fired_run row).symm
  rw [count_hooks, warned, does, Lifecycle.hooks_reached, (Lifecycle.count_hooksOf ..).2]

/-- What the page of a login shows, and which hooks are called on the way there. -/
theorem page_of_login (config : Session.Config) (settings : Settings) (errorUrl : String)
    (hasError : Bool) (events : List Event) (inside : ∀ hook, .hook hook ∉ events) :
    let login := initial config settings errorUrl hasError
    let last := (login.run events).1
    let did := (login.run events).2
    let effects := lifecycleEffects did
    let unsuccessful := ∃ phase ∈ login.phases events, phase = .erroring ∨ phase = .aborting
    -- the lifecycle tells of an error once, and before it asks for an error or an abort
    (unsuccessful → (Lifecycle.hooks effects).count .onError = 1) ∧
      (¬unsuccessful → (Lifecycle.hooks effects).count .onError = 0) ∧
      (∀ before id exchange after, effects = before ++ .beginExchange id exchange :: after →
        exchange = .error ∨ exchange = .abort → .hook .onError ∈ before) ∧
      -- a failed return is told for each call that failed and each fallback that fired
      ((hooks did).map (·.2)).count .onReturningFailed =
        (Lifecycle.failedCalls effects).length + last.schedule.fired ∧
      (∀ id failure, (id, failure) ∈ Lifecycle.failedCalls effects ↔
        last.lifecycle.ending? id = some (.failed failure)) ∧
      -- what is shown
      (last.view.screen = .widget ↔ hasError = false ∧ hooks did = []) ∧
      (last.view.screen.contact? = some settings.supportContact ↔
        (∃ id failure, last.lifecycle.ending? id = some (.failed failure)) ∨
          ∃ id, last.schedule.outcome? id = some (.error .returnTimeout)) ∧
      (∀ contact, last.view.screen.contact? = some contact → contact = settings.supportContact) ∧
      -- no screen gives way to an earlier one
      ∀ more, (last.view.screen ≠ .widget → (login.run (events ++ more)).1.view.screen ≠ .widget) ∧
        ∀ contact, last.view.screen.contact? = some contact →
          (login.run (events ++ more)).1.view.screen.contact? = some contact := by
  intro login last did effects unsuccessful
  obtain ⟨state, does⟩ := login.run_lifecycle events
  replace state : last.lifecycle = Lifecycle.reached config (lifecycleEvents events) := state
  replace does : effects = Lifecycle.done config (lifecycleEvents events) := does
  have standing := Lifecycle.standing_reached config (lifecycleEvents events)
  have told := Lifecycle.hooks_reached config (lifecycleEvents events)
  rw [← state, ← does] at standing told
  have ever : unsuccessful ↔ last.lifecycle.phase.isUnsuccessful = true :=
    unsuccessful_run config settings errorUrl hasError events
  have failed id failure : (id, failure) ∈ Lifecycle.failedCalls effects ↔
      last.lifecycle.ending? id = some (.failed failure) :=
    standing.failed_iff
  have returning := count_returningFailed config settings errorUrl hasError events
  have view : last.view = _ := view_inside config settings errorUrl hasError inside
  have warned : last.view.returningFailed = true ↔
      (∃ id failure, last.lifecycle.ending? id = some (.failed failure)) ∨
        ∃ id, last.schedule.outcome? id = some (.error .returnTimeout) := by
    rw [view, decide_eq_true_iff, ← List.count_pos_iff, returning, Nat.add_pos_iff_pos_or_pos,
      List.length_pos_iff_exists_mem, fired_pos_iff]
    simp only [Prod.exists, ← failed]
    rfl
  have shown : last.view.screen.contact? =
      if last.view.returningFailed then some settings.supportContact else none := by
    rw [screen_contact?, view]
  refine ⟨?_, ?_, ?_, returning, failed, ?_, ?_, ?_, ?_⟩
  · intro once
    rw [told, (Lifecycle.count_hooksOf ..).1, if_pos (ever.1 once)]
  · intro never
    rw [told, (Lifecycle.count_hooksOf ..).1, if_neg (never ∘ ever.2)]
  · intro before id exchange after row
    rw [does] at row
    exact Lifecycle.announced row
  · rw [screen_eq_widget, view]
    show _ ↔ hasError = false ∧ hooks (login.run events).2 = []
    cases hooks (login.run events).2 with
    | nil => simp
    | cons timed rest =>
      obtain ⟨time, called⟩ := timed
      cases called <;> simp
  · rw [← warned, shown]
    simp
  · intro contact shows
    rw [shown] at shows
    split at shows
    · exact (Option.some.inj shows).symm
    · cases shows
  · intro more
    obtain ⟨called, later, -⟩ := last.run_view more
    rw [run_append]
    replace later : ((login.run events).1.run more).1.view = _ := later
    rw [later]
    exact screen_foldl_call last.view called

/-- A login whose error could not even be asked for shows the contact. -/
theorem page_of_login_after_failure :
    let config : Session.Config :=
      { server := "s", assertUrl := "a", errorAssertUrl := "", parameters := "" }
    let login := initial config {} "" false
    let events : List Event := [.lifecycle (.call 0 .handleError), .lifecycle (.replied 0 .none)]
    (∀ hook, .hook hook ∉ events) ∧
      (Lifecycle.hooks (lifecycleEffects (login.run events).2)).count .onError = 1 ∧
      (login.run events).1.view.screen.contact? = some "support@yivi.app" := by
  intro config login events
  have inside : ∀ hook, .hook hook ∉ events := by simp [events]
  obtain ⟨told, -, -, -, -, -, contact, -⟩ := page_of_login config {} "" false events inside
  exact ⟨inside, told ⟨.erroring, .head _, .inl rfl⟩, contact.2 (.inl ⟨0, _, rfl⟩)⟩

end Login

end DisclosureRelay
