import DisclosureRelay.Proofs.Login.Lifecycle

/-!
# Logins that differ in their lifecycles only

Two logins are alike when their lifecycles are related and everything else is the same. Where the
lifecycles keep the relation and a view shows the same of what they do, the logins stay alike and
the view shows the same of what they do as a whole (`Alike.run`): the page and the returns take in
nothing that such a view leaves out. Where all that is left out is the calls to which the effects
belong, the logins are the same to the outside (`Matches.sameOutside`).
-/

namespace DisclosureRelay.Login

/-- The lifecycles of two logins are related, and the rest is the same. -/
inductive Alike (R : Lifecycle.State → Lifecycle.State → Prop) (login : Login) : Login → Prop where
  | intro (lifecycle : Lifecycle.State) :
    R login.lifecycle lifecycle → Alike R login { login with lifecycle }

lemma Alike.related {R : Lifecycle.State → Lifecycle.State → Prop} {login other : Login}
    (alike : login.Alike R other) : R login.lifecycle other.lifecycle := by
  cases alike with
  | intro lifecycle related => exact related

/-- A view leaves out nothing that the page and the returns take in. -/
def Shows (view : Lifecycle.Effect → Option Lifecycle.Effect) : Prop :=
  ∀ (login : Login) effect, ((view effect).map login.absorb).getD login = login.absorb effect

lemma shows_some : Shows some :=
  fun _ _ => rfl

lemma shows_anonymous : Shows Lifecycle.Effect.anonymous? := by
  intro login effect
  cases effect with
  | finish id ending => cases ending <;> rfl
  | _ => rfl

lemma foldl_absorb_filterMap {view : Lifecycle.Effect → Option Lifecycle.Effect}
    (shows : Shows view) (effects : List Lifecycle.Effect) (login : Login) :
    (effects.filterMap view).foldl absorb login = effects.foldl absorb login := by
  induction effects generalizing login with
  | nil => rfl
  | cons effect effects ih =>
    have first := shows login effect
    rw [List.foldl_cons, ← first, ← ih, List.filterMap_cons]
    cases view effect <;> rfl

/-- Neither the page nor the returns look at the lifecycle when they take in an effect. -/
lemma foldl_absorb_with (effects : List Lifecycle.Effect) (login : Login)
    (lifecycle : Lifecycle.State) :
    effects.foldl absorb { login with lifecycle } =
      { effects.foldl absorb login with lifecycle } := by
  induction effects generalizing login with
  | nil => rfl
  | cons effect effects ih =>
    rw [List.foldl_cons, List.foldl_cons, ← ih]
    cases effect <;> rfl

lemma foldl_notice_with (effects : List Return.Schedule.Effect) (login : Login)
    (lifecycle : Lifecycle.State) :
    effects.foldl notice { login with lifecycle } =
      { effects.foldl notice login with lifecycle } := by
  induction effects generalizing login with
  | nil => rfl
  | cons effect effects ih =>
    rw [List.foldl_cons, List.foldl_cons, ← ih]
    unfold notice
    split <;> rfl

section Through

variable (view : Lifecycle.Effect → Option Lifecycle.Effect)

lemma through_some (effects : List (Nat × Effect)) : through some effects = effects := by
  induction effects with
  | nil => rfl
  | cons timed effects ih =>
    obtain ⟨time, effect⟩ := timed
    cases effect <;> exact congrArg (_ :: ·) ih

lemma through_append (effects more : List (Nat × Effect)) :
    through view (effects ++ more) = through view effects ++ through view more :=
  List.filterMap_append

/-- A view of the effects of the lifecycle is a view of them with their time. -/
lemma through_lifecycle (time : Nat) (effects : List Lifecycle.Effect) :
    through view ((effects.map Effect.lifecycle).map (time, ·)) =
      (effects.filterMap view).map fun effect => (time, .lifecycle effect) := by
  induction effects with
  | nil => rfl
  | cons effect effects ih =>
    unfold through at ih ⊢
    rw [List.map_cons, List.map_cons, List.filterMap_cons, List.filterMap_cons, ih]
    cases eq : view effect <;> simp [Effect.through, eq]

end Through

variable {R R' : Lifecycle.State → Lifecycle.State → Prop} {login other : Login}
  {view : Lifecycle.Effect → Option Lifecycle.Effect}

lemma Alike.with_lifecycles {s t : Lifecycle.State} (related : R s t) :
    Alike R { login with lifecycle := s } { login with lifecycle := t } :=
  .intro t related

/-- The lifecycle moves on, and the rest takes in what a view shows of it. -/
lemma step_lifecycle_fst (shows : Shows view) (login : Login) (event : Lifecycle.Event) :
    (login.step (.lifecycle event)).1 =
      { ((login.lifecycle.step event).2.filterMap view).foldl absorb login with
        lifecycle := (login.lifecycle.step event).1 } := by
  rw [foldl_absorb_filterMap shows, ← foldl_absorb_with]
  rfl

/-- Logins stay alike on events of the lifecycle of which a view shows the same. -/
lemma Alike.step_lifecycle (alike : login.Alike R other) (shows : Shows view)
    {event event' : Lifecycle.Event}
    (next : R' (login.lifecycle.step event).1 (other.lifecycle.step event').1)
    (effects : (login.lifecycle.step event).2.filterMap view =
      (other.lifecycle.step event').2.filterMap view) :
    (login.step (.lifecycle event)).1.Alike R' (other.step (.lifecycle event')).1 ∧
      through view (login.timedStep (.lifecycle event)).2 =
        through view (other.timedStep (.lifecycle event')).2 := by
  cases alike with
  | intro lifecycle related =>
    constructor
    · rw [step_lifecycle_fst shows, step_lifecycle_fst shows, effects,
        foldl_absorb_with _ login lifecycle]
      exact .with_lifecycles next
    · simp only [timedStep, step, through_lifecycle, effects]
      rfl

/-- Logins stay alike on what happens to their attempts. -/
lemma Alike.step_returns (alike : login.Alike R other) (event : Return.Schedule.Event) :
    (login.step (.returns event)).1.Alike R (other.step (.returns event)).1 ∧
      (login.timedStep (.returns event)).2 = (other.timedStep (.returns event)).2 := by
  cases alike with
  | intro lifecycle related =>
    have own : (login.step (.returns event)).1.lifecycle = login.lifecycle :=
      (login.step_other rfl).1
    have taken : (Login.step { login with lifecycle } (.returns event)).1 =
        { (login.step (.returns event)).1 with lifecycle } :=
      foldl_notice_with (login.schedule.step event).2
        { login with schedule := (login.schedule.step event).1 } lifecycle
    rw [taken]
    exact ⟨.intro lifecycle (own ▸ related), rfl⟩

/-- Logins stay alike when a widget makes a request in both or in neither. -/
lemma Alike.step_asks (alike : login.Alike R other) {id : Lifecycle.CallId}
    (request : Except Http.Fault Http.Request)
    (asks : ∀ widget, login.lifecycle.stage? id = some (.atWidget widget) ↔
      other.lifecycle.stage? id = some (.atWidget widget)) :
    (login.step (.asks id request)).1.Alike R (other.step (.asks id request)).1 ∧
      (login.timedStep (.asks id request)).2 = (other.timedStep (.asks id request)).2 := by
  cases alike with
  | intro lifecycle related =>
    unfold timedStep step
    dsimp only
    split
    · next widget waits =>
      rw [(asks widget).1 waits]
      exact ⟨.intro lifecycle related, rfl⟩
    · next idle =>
      split
      · next widget waits => exact absurd ((asks widget).2 waits) (idle widget)
      · exact ⟨.intro lifecycle related, rfl⟩

/-- On two rows of events, two logins stay alike and a view shows the same of them. -/
structure Matches (view : Lifecycle.Effect → Option Lifecycle.Effect)
    (R : Lifecycle.State → Lifecycle.State → Prop) (login other : Login)
    (events others : List Event) : Prop where
  alike : (login.run events).1.Alike R (other.run others).1
  effects : through view (login.run events).2 = through view (other.run others).2

/-- The rows correspond event by event, and the phases after each of them are the same too. -/
structure Follows (view : Lifecycle.Effect → Option Lifecycle.Effect)
    (R : Lifecycle.State → Lifecycle.State → Prop) (login other : Login)
    (events others : List Event) : Prop extends Matches view R login other events others where
  phases : login.phases events = other.phases others

lemma run_append (login : Login) (events more : List Event) :
    login.run (events ++ more) =
      (((login.run events).1.run more).1,
        (login.run events).2 ++ ((login.run events).1.run more).2) :=
  Machine.run_append timedStep login events more

lemma run_one (login : Login) (event : Event) :
    login.run [event] = ((login.step event).1, (login.timedStep event).2) :=
  congrArg ((login.step event).1, ·) (List.append_nil _)

lemma phases_append (login : Login) (events more : List Event) :
    login.phases (events ++ more) = login.phases events ++ (login.run events).1.phases more := by
  rw [phases, Machine.passed_append, List.map_append]
  rfl

/-- The phase after an event of the lifecycle. -/
lemma phases_one (login : Login) (event : Lifecycle.Event) :
    login.phases [.lifecycle event] = [(login.lifecycle.step event).1.phase] :=
  congrArg (fun s : Lifecycle.State => [s.phase]) (login.lifecycle_step event)

section Append

variable {events others more rest : List Event}

/-- What holds of two rows and of what comes after them holds of the rows as a whole. -/
lemma Matches.append (first : Matches view R login other events others)
    (second : Matches view R' (login.run events).1 (other.run others).1 more rest) :
    Matches view R' login other (events ++ more) (others ++ rest) where
  alike := by
    rw [run_append, run_append]
    exact second.alike
  effects := by
    rw [run_append, run_append, through_append, through_append, first.effects, second.effects]

lemma Follows.append (first : Follows view R login other events others)
    (second : Follows view R' (login.run events).1 (other.run others).1 more rest) :
    Follows view R' login other (events ++ more) (others ++ rest) where
  toMatches := first.toMatches.append second.toMatches
  phases := by rw [phases_append, phases_append, first.phases, second.phases]

/-- Lifecycles that are related are related in every weaker way. -/
lemma Matches.mono (matched : Matches view R login other events others)
    (weaker : ∀ s t, R s t → R' s t) : Matches view R' login other events others where
  alike := by
    have alike := matched.alike
    generalize (login.run events).1 = a, (other.run others).1 = b at alike
    cases alike with
    | intro lifecycle related => exact .intro lifecycle (weaker _ _ related)
  effects := matched.effects

lemma Follows.mono (follows : Follows view R login other events others)
    (weaker : ∀ s t, R s t → R' s t) : Follows view R' login other events others where
  toMatches := follows.toMatches.mono weaker
  phases := follows.phases

/-- Where all effects are the same, every view shows the same. -/
lemma Follows.of_some (follows : Follows some R login other events others) :
    Follows view R login other events others where
  alike := follows.alike
  effects := by
    have effects := follows.effects
    rw [through_some, through_some] at effects
    rw [effects]
  phases := follows.phases

end Append

/-- A view that does not look at the calls of effects shows the same without them. -/
def Blind {Seen : Type} (view : Nat × Effect → Option Seen) : Prop :=
  ∀ time effect, ((Lifecycle.Effect.anonymous? effect).bind fun effect =>
    view (time, .lifecycle effect)) = view (time, .lifecycle effect)

lemma Blind.outward {Seen : Type} {view : Nat × Effect → Option Seen} (blind : Blind view)
    (effects : List (Nat × Effect)) : (outward effects).filterMap view = effects.filterMap view := by
  rw [Login.outward, through, List.filterMap_filterMap]
  congr
  funext timed
  obtain ⟨time, effect⟩ := timed
  cases effect with
  | lifecycle effect =>
    rw [← blind time effect]
    simp [Effect.through, Option.bind_map, Function.comp_def]
  | _ => rfl

/-- Rows of events that are the same without the calls of their effects are the same outside. -/
lemma Matches.sameOutside {events others : List Event}
    (matched : Matches Lifecycle.Effect.anonymous? R login login events others) :
    SameOutside login events others := by
  have same {Seen : Type} {view : Nat × Effect → Option Seen} (blind : Blind view) :
      (login.run events).2.filterMap view = (login.run others).2.filterMap view := by
    rw [← blind.outward (login.run events).2, ← blind.outward (login.run others).2]
    exact congrArg _ matched.effects
  have rest : (login.run events).1.schedule = (login.run others).1.schedule ∧
      (login.run events).1.view = (login.run others).1.view := by
    have alike := matched.alike
    generalize (login.run events).1 = a, (login.run others).1 = b at alike
    cases alike
    exact ⟨rfl, rfl⟩
  have attempts (blind : Blind (armed? login.settings)) :
      login.lifecycleAttempts events = login.lifecycleAttempts others := by
    rw [lifecycleAttempts_eq, lifecycleAttempts_eq, same blind]
  refine ⟨matched.effects, fun postsForms => same ?_, same ?_, attempts ?_, rest.1, same ?_, rest.2⟩
  -- none of the views looks at the number of a call, or at a call that was superseded
  all_goals
    intro time effect
    cases effect with
    | finish id ending => cases ending <;> rfl
    | _ => rfl

/-- One event of the lifecycle in either login. -/
lemma Alike.follows (alike : login.Alike R other) (shows : Shows view)
    {event event' : Lifecycle.Event}
    (phase : (login.lifecycle.step event).1.phase = (other.lifecycle.step event').1.phase)
    (next : R' (login.lifecycle.step event).1 (other.lifecycle.step event').1)
    (effects : (login.lifecycle.step event).2.filterMap view =
      (other.lifecycle.step event').2.filterMap view) :
    Follows view R' login other [.lifecycle event] [.lifecycle event'] := by
  obtain ⟨next, effects⟩ := alike.step_lifecycle shows next effects
  refine ⟨⟨next, ?_⟩, ?_⟩
  · rw [run_one, run_one]
    exact effects
  · rw [phases_one, phases_one, phase]

/-- One event of the lifecycle in the second login only, of which a view shows nothing. -/
lemma Alike.matches_quiet (alike : login.Alike R other) (shows : Shows view)
    {event : Lifecycle.Event} (next : R' login.lifecycle (other.lifecycle.step event).1)
    (quiet : (other.lifecycle.step event).2.filterMap view = []) :
    Matches view R' login other [] [.lifecycle event] := by
  cases alike with
  | intro lifecycle related =>
    constructor
    · show Alike R' login (Login.step _ (.lifecycle event)).1
      rw [step_lifecycle_fst shows, quiet]
      exact .intro _ next
    · rw [run_one]
      simp only [timedStep, step, through_lifecycle, quiet]
      rfl

lemma Event.onLifecycle_id : Event.onLifecycle id = id := by
  funext event
  cases event <;> rfl

section Run

variable (rename : Lifecycle.Event → Lifecycle.Event) (Usable : Event → Prop)
  (Asks : Lifecycle.WidgetId → Prop) (shows : Shows view)
  (keep : ∀ s t event, R s t → Usable (.lifecycle event) →
    R (s.step event).1 (t.step (rename event)).1 ∧
      (s.step event).2.filterMap view = (t.step (rename event)).2.filterMap view)
  (asks : ∀ s t id request, R s t → Usable (.asks id request) →
    (∀ widget, t.stage? id = some (.atWidget widget) → Asks widget) →
    ∀ widget, s.stage? id = some (.atWidget widget) ↔ t.stage? id = some (.atWidget widget))
include shows keep asks

/-- Logins stay alike on an event if their lifecycles keep the relation on it. -/
lemma Alike.step (alike : login.Alike R other) {event : Event} (usable : Usable event)
    (allowed : ∀ time widget request,
      (time, .asks widget request) ∈ (other.timedStep (event.onLifecycle rename)).2 → Asks widget) :
    (login.step event).1.Alike R (other.step (event.onLifecycle rename)).1 ∧
      through view (login.timedStep event).2 =
        through view (other.timedStep (event.onLifecycle rename)).2 := by
  have related := alike.related
  cases event with
  | lifecycle event =>
    obtain ⟨next, effects⟩ := keep _ _ event related usable
    exact alike.step_lifecycle shows next effects
  | asks id request =>
    -- that the second login makes the request is known only once its effects are allowed
    have both := asks _ _ id request related usable fun widget waits =>
      allowed other.now widget request (by simp [Event.onLifecycle, timedStep, Login.step, waits])
    obtain ⟨next, effects⟩ := alike.step_asks request both
    exact ⟨next, congrArg (through view) effects⟩
  | returns event =>
    obtain ⟨next, effects⟩ := alike.step_returns event
    exact ⟨next, congrArg (through view) effects⟩
  | report | hook =>
    cases alike with
    | intro lifecycle => exact ⟨.intro lifecycle related, rfl⟩

/-- Logins stay alike on a row of events if their lifecycles keep the relation. -/
theorem Alike.run (phases : ∀ s t, R s t → s.phase = t.phase) (alike : login.Alike R other)
    {events : List Event} (usable : ∀ event ∈ events, Usable event)
    (allowed : ∀ time widget request,
      (time, .asks widget request) ∈ (other.run (events.map (.onLifecycle rename))).2 →
        Asks widget) :
    Follows view R login other events (events.map (.onLifecycle rename)) := by
  have looks (a b : Login) (alike : a.Alike R b) : a.lifecycle.phase = b.lifecycle.phase :=
    phases _ _ alike.related
  have step (a b : Login) (event : Event) (alike : a.Alike R b) (usable : Usable event)
      (allowed : ∀ effect ∈ (b.timedStep (event.onLifecycle rename)).2,
        ∀ widget request, effect.2 = .asks widget request → Asks widget) :
      (a.timedStep event).1.Alike R (b.timedStep (event.onLifecycle rename)).1 ∧
        through view (a.timedStep event).2 =
          through view (b.timedStep (event.onLifecycle rename)).2 :=
    Alike.step rename Usable Asks shows keep asks alike usable fun _ widget request mem =>
      allowed _ mem widget request rfl
  have obeys : ∀ effect ∈ (other.run (events.map (.onLifecycle rename))).2,
      ∀ widget request, effect.2 = .asks widget request → Asks widget := by
    rintro ⟨time, effect⟩ mem widget request rfl
    exact allowed time widget request mem
  obtain ⟨next, effects, states⟩ := Machine.run_alike timedStep looks step alike usable obeys
  exact ⟨⟨next, effects⟩, states⟩

end Run

end DisclosureRelay.Login
