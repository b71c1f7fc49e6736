import DisclosureRelay.Proofs.Lifecycle.Phases

/-!
# The widget of a login

A login starts one widget at most, and only with a session that it can hand over; it keeps the
widget registered while it runs and takes it off at its end, or to tell it to stop. `Turn` lists what
a move can mean for the widget, `Manned` ties what is registered to what was started and stopped, and
`widget_of_login` says what a login does with its widget.
-/

namespace DisclosureRelay

/-- A login has something to hand over exactly if there is a session that can be moved to its
server. -/
lemma Session.Config.handover_eq_ok {config : Session.Config} {handover : Widget.Handover} :
    config.handover = .ok handover ↔ config.Hands handover := by
  unfold Session.Config.handover Session.Config.pointer Session.Config.resultUrl
    Session.Config.sessionData Session.Pointer.relocated
  constructor
  · intro given
    cases session : config.session with
    | none => simp [session] at given
    | some data =>
      cases moved : Session.relocate data.pointer.address config.server with
      | error failure => simp [session, moved] at given
      | ok address =>
        simp only [session, moved, Except.ok.injEq] at given
        subst given
        exact ⟨⟨data, session, moved, rfl, rfl⟩, rfl⟩
  · rintro ⟨⟨data, session, moved, metadata, resultUrl⟩, language⟩
    obtain ⟨⟨address, members⟩, url, tongue⟩ := handover
    simp only at moved metadata resultUrl language
    simp [session, moved, metadata, resultUrl, language]

lemma Session.Config.handover_eq_error {config : Session.Config}
    (nothing : ∀ handover, ¬config.Hands handover) :
    ∃ failure, config.handover = .error failure := by
  cases given : config.handover with
  | error failure => exact ⟨failure, rfl⟩
  | ok handover => exact absurd (handover_eq_ok.1 given) (nothing handover)

namespace Lifecycle

namespace State

variable {s t : State} {event : Event} {effects : List Effect}

/-- What a move means for the widget: what is started and what is told to stop. -/
inductive Turn (s t : State) : List (WidgetId × Widget.Handover) → List WidgetId → Prop where
  /-- The widget is not concerned. -/
  | keeps :
    t.registered = s.registered →
    (∀ id widget, t.stage? id = some (.atWidget widget) ↔ s.stage? id = some (.atWidget widget)) →
    Turn s t [] []
  /-- A widget is started and registered. -/
  | starts {runner widget handover} :
    s.phase = .idle → t.phase = .starting → t.registered = some widget →
    (∀ id other, t.stage? id = some (.atWidget other) ↔
      id = runner ∧ other = widget ∨ s.stage? id = some (.atWidget other)) →
    Turn s t [(widget, handover)] []
  /-- A run ends and takes the widget off. -/
  | ends {runner widget} :
    s.stage? runner = some (.atWidget widget) → t.registered = none →
    (∀ id other, t.stage? id = some (.atWidget other) ↔
      id ≠ runner ∧ s.stage? id = some (.atWidget other)) →
    Turn s t [] []
  /-- An abort takes the widget off and tells it to stop; the run goes on until the widget obeys. -/
  | stops :
    t.registered = none →
    (∀ id widget, t.stage? id = some (.atWidget widget) ↔ s.stage? id = some (.atWidget widget)) →
    Turn s t [] s.registered.toList
  /-- An interrupt does the same, and the run that it comes to is put aside. -/
  | interrupts {runner widget} :
    s.stage? runner = some (.atWidget widget) → t.registered = none →
    (∀ id other, t.stage? id = some (.atWidget other) ↔
      id ≠ runner ∧ s.stage? id = some (.atWidget other)) →
    Turn s t [] s.registered.toList

/-- A call that goes to a stage without a widget is at its widget no more, and nobody else moves. -/
lemma Reaches.leaves {id : CallId} {phase : Phase} {registered : Option WidgetId} {stage : Stage}
    (r : s.Reaches t id phase registered stage) (past : ∀ widget, stage ≠ .atWidget widget)
    (other : CallId) (widget : WidgetId) :
    t.stage? other = some (.atWidget widget) ↔
      other ≠ id ∧ s.stage? other = some (.atWidget widget) := by
  by_cases own : other = id
  · subst own
    simp [r.stage_self, past]
  · simp [r.stage_other own, own]

/-- A call that was at no widget goes to a stage without one. -/
lemma Reaches.passes {id : CallId} {phase : Phase} {registered : Option WidgetId} {stage : Stage}
    (r : s.Reaches t id phase registered stage) (past : ∀ widget, stage ≠ .atWidget widget)
    (before : ∀ widget, s.stage? id ≠ some (.atWidget widget)) (other : CallId)
    (widget : WidgetId) :
    t.stage? other = some (.atWidget widget) ↔ s.stage? other = some (.atWidget widget) := by
  rw [r.leaves past, and_iff_right_of_imp]
  rintro at' rfl
  exact before widget at'

lemma InFlight.not_atWidget {id : CallId} {exchange : Exchange} (flight : s.InFlight id exchange)
    (widget : WidgetId) : s.stage? id ≠ some (.atWidget widget) := by
  obtain waits | ⟨-, waits⟩ := flight <;> simp [waits]

/-- The calls that an event frees and that begin nothing new with a widget: a new one is not
concerned with it, and one whose widget ended takes that off. -/
lemma Frees.turn {id : CallId} {phase : Phase} {stage : Stage} (frees : s.Frees event id)
    (r : s.Reaches t id phase (s.left event) stage) (past : ∀ widget, stage ≠ .atWidget widget) :
    Turn s t [] [] := by
  cases frees with
  | call fresh => exact .keeps r.registered (r.passes past (by simp [fresh]))
  | widgetEnded waits => exact .ends waits r.registered (r.leaves past)

/-- An abort starts no widget and tells the one that is registered to stop. -/
lemma views_abort (widget : Option WidgetId) (id : CallId) :
    let effects := (widget.map .abortWidget).toList ++ [.hook .onError, .beginExchange id .abort]
    startedWidgets effects = [] ∧ stoppedWidgets effects = widget.toList := by
  cases widget <;> exact ⟨rfl, rfl⟩

/-- Every move is one of the turns. -/
theorem Move.turn {Result begun armed decided} (move : s.Move event t effects)
    (standing : Standing Result s begun armed decided) :
    Turn s t (startedWidgets effects) (stoppedWidgets effects) := by
  cases move with
  | stays _ _ _ registered stages => exact .keeps registered fun id widget => by rw [stages]
  | superseded frees _ _ r => exact frees.turn r nofun
  | errs frees _ r => exact frees.turn r nofun
  | @starts runner _ widget handover _ _ fresh idle _ r =>
    have at' (id other) : t.stage? id = some (.atWidget other) ↔
        id = runner ∧ other = widget ∨ s.stage? id = some (.atWidget other) := by
      by_cases own : id = runner
      · subst own
        simp [r.stage_self, fresh, eq_comm]
      · simp [r.stage_other own, own]
    exact .starts idle r.phase r.registered at'
  | aborts frees _ r =>
    rw [(views_abort ..).1, (views_abort ..).2]
    cases frees with
    | call fresh => exact .stops r.registered (r.passes nofun (by simp [fresh]))
    | widgetEnded waits => exact .ends waits r.registered (r.leaves nofun)
  | interrupts waits pending nonterminal r =>
    -- before a login is taken over the only call under way is at its widget
    obtain ⟨widget, rfl, -⟩ := standing.of_pending nonterminal waits pending
    rw [(views_abort ..).1, (views_abort ..).2]
    exact .interrupts waits r.registered (r.leaves nofun)
  | succeeds waits _ r => exact .ends waits r.registered (r.leaves nofun)
  | fallsBack waits _ r => exact .keeps r.registered (r.passes nofun (by simp [waits]))
  | arms flight _ r => exact .keeps r.registered (r.passes nofun flight.not_atWidget)
  | fails flight _ _ r => exact .keeps r.registered (r.passes nofun flight.not_atWidget)

/-- No call waits for a widget. -/
def Unmanned (s : State) : Prop :=
  ∀ id widget, s.stage? id ≠ some (.atWidget widget)

/-- One call waits for its widget, and no other one does. -/
def Alone (s : State) (runner : CallId) (widget : WidgetId) : Prop :=
  ∀ id other, s.stage? id = some (.atWidget other) ↔ id = runner ∧ other = widget

/-- How the widget of a login stands, with what was started and what was told to stop. -/
inductive Manned (s : State) : List (WidgetId × Widget.Handover) → List WidgetId → Prop where
  /-- No widget was started yet. -/
  | vacant : s.registered = none → s.Unmanned → Manned s [] []
  /-- The widget runs and is registered. -/
  | registered {runner widget handover} :
    s.phase ≠ .idle → s.registered = some widget → s.Alone runner widget →
    Manned s [(widget, handover)] []
  /-- The widget runs, but was told to stop. -/
  | told {runner widget handover} :
    s.phase ≠ .idle → s.registered = none → s.Alone runner widget →
    Manned s [(widget, handover)] [widget]
  /-- The run of the widget is over. -/
  | gone {widget handover stopped} :
    s.phase ≠ .idle → s.registered = none → s.Unmanned → stopped = [] ∨ stopped = [widget] →
    Manned s [(widget, handover)] stopped

section Runs

variable {runner caller : CallId} {widget other : WidgetId}

lemma Unmanned.kept (unmanned : s.Unmanned) (stages : ∀ id widget,
    t.stage? id = some (.atWidget widget) ↔ s.stage? id = some (.atWidget widget)) : t.Unmanned :=
  fun id widget runs => unmanned id widget ((stages id widget).1 runs)

lemma Alone.kept (alone : s.Alone runner widget) (stages : ∀ id widget,
    t.stage? id = some (.atWidget widget) ↔ s.stage? id = some (.atWidget widget)) :
    t.Alone runner widget :=
  fun id other => (stages id other).trans (alone id other)

lemma Unmanned.starts (unmanned : s.Unmanned) (stages : ∀ id other,
    t.stage? id = some (.atWidget other) ↔
      id = runner ∧ other = widget ∨ s.stage? id = some (.atWidget other)) :
    t.Alone runner widget :=
  fun id other => (stages id other).trans (or_iff_left (unmanned id other))

lemma Alone.ends (alone : s.Alone runner widget) (ran : s.stage? caller = some (.atWidget other))
    (stages : ∀ id other, t.stage? id = some (.atWidget other) ↔
      id ≠ caller ∧ s.stage? id = some (.atWidget other)) : t.Unmanned := by
  intro id other' runs
  obtain ⟨apart, ran'⟩ := (stages id other').1 runs
  exact apart (((alone _ _).1 ran').1.trans ((alone _ _).1 ran).1.symm)

end Runs

namespace Manned

variable {started begun : List (WidgetId × Widget.Handover)} {stopped ended : List WidgetId}

/-- Every turn keeps how the widget stands. -/
theorem step (manned : Manned s started stopped) (turn : Turn s t begun ended)
    (moves : s.phase ≠ .idle → t.phase ≠ .idle) :
    Manned t (started ++ begun) (stopped ++ ended) := by
  cases turn with
  | keeps kept stages =>
    rw [List.append_nil, List.append_nil]
    cases manned with
    | vacant off none => exact .vacant (kept.trans off) (none.kept stages)
    | registered moved here alone =>
      exact .registered (moves moved) (kept.trans here) (alone.kept stages)
    | told moved off alone => exact .told (moves moved) (kept.trans off) (alone.kept stages)
    | gone moved off none once => exact .gone (moves moved) (kept.trans off) (none.kept stages) once
  | starts first starting here stages =>
    cases manned with
    | vacant _ none => exact .registered (by simp [starting]) here (none.starts stages)
    -- a widget is started from idle only, which a login leaves for good with its first one
    | registered moved | told moved | gone moved => exact absurd first moved
  | ends ran off stages =>
    rw [List.append_nil, List.append_nil]
    cases manned with
    | vacant _ none | gone _ _ none => exact absurd ran (none _ _)
    | registered moved _ alone => exact .gone (moves moved) off (alone.ends ran stages) (.inl rfl)
    | told moved _ alone => exact .gone (moves moved) off (alone.ends ran stages) (.inr rfl)
  | stops off stages =>
    rw [List.append_nil]
    cases manned with
    | vacant before none =>
      rw [before]
      exact .vacant off (none.kept stages)
    | registered moved before alone =>
      rw [before]
      exact .told (moves moved) off (alone.kept stages)
    -- what was told is registered no more, so that it is not told again
    | told moved before alone =>
      rw [before]
      exact .told (moves moved) off (alone.kept stages)
    | gone moved before none once =>
      rw [before]
      exact .gone (moves moved) off (none.kept stages) (by simpa using once)
  | interrupts ran off stages =>
    rw [List.append_nil]
    cases manned with
    | vacant _ none | gone _ _ none => exact absurd ran (none _ _)
    | registered moved before alone =>
      rw [before]
      exact .gone (moves moved) off (alone.ends ran stages) (.inr rfl)
    | told moved before alone =>
      rw [before]
      exact .gone (moves moved) off (alone.ends ran stages) (.inr rfl)

lemma once (manned : Manned s started stopped) : started.length ≤ 1 ∧ stopped.length ≤ 1 := by
  cases manned with
  | gone _ _ _ once => obtain rfl | rfl := once <;> simp
  | _ => simp

/-- A widget is registered while it runs, until it is told to stop. -/
lemma registered_iff (manned : Manned s started stopped) (widget : WidgetId) :
    s.registered = some widget ↔ s.Running widget ∧ widget ∉ stopped := by
  cases manned with
  | vacant off none | gone _ off none =>
    rw [off]
    exact iff_of_false nofun fun ⟨⟨id, runs⟩, _⟩ => none id widget runs
  | @registered runner _ _ _ here alone =>
    rw [here, Option.some.injEq]
    constructor
    · rintro rfl
      exact ⟨⟨runner, (alone _ _).2 ⟨rfl, rfl⟩⟩, List.not_mem_nil⟩
    · rintro ⟨⟨id, runs⟩, -⟩
      exact ((alone _ _).1 runs).2.symm
  | told _ off alone =>
    rw [off]
    refine iff_of_false nofun fun ⟨⟨id, runs⟩, free⟩ => free ?_
    rw [((alone _ _).1 runs).2]
    exact List.mem_singleton_self _

lemma runner_unique (manned : Manned s started stopped) {id other : CallId}
    {widget widget' : WidgetId} (runs : s.stage? id = some (.atWidget widget))
    (runs' : s.stage? other = some (.atWidget widget')) : id = other := by
  cases manned with
  | vacant _ none | gone _ _ none => exact absurd runs (none _ _)
  | registered _ _ alone | told _ _ alone =>
    exact ((alone _ _).1 runs).1.trans ((alone _ _).1 runs').1.symm

end Manned

/-- Only a call that runs a widget starts it, as the first one and with what the login hands
over. -/
lemma Move.of_starts {id : CallId} {widget : WidgetId} {handover : Widget.Handover}
    (move : s.Move event t effects) (starts : .startWidget id widget handover ∈ effects) :
    (∃ entry, event = .call id entry ∧ entry.widget? = some widget) ∧ s.phase = .idle ∧
      t.phase = .starting ∧ s.config.Hands handover := by
  cases move with
  | @starts _ entry _ _ _ runs _ idle given r =>
    obtain ⟨rfl, rfl, rfl⟩ : _ ∧ _ ∧ _ := by simpa using starts
    exact ⟨⟨entry, rfl, runs⟩, idle, r.phase, Session.Config.handover_eq_ok.1 given⟩
  | _ => simp at starts

/-- A widget is told to stop only while it runs, and not by the event that ends its run. -/
lemma Move.of_stops {started stopped} {widget : WidgetId} (move : s.Move event t effects)
    (manned : Manned s started stopped) (stops : .abortWidget widget ∈ effects) :
    ∃ id, s.stage? id = some (.atWidget widget) ∧ ∀ outcome, event ≠ .widgetEnded id outcome := by
  have runs (here : s.registered = some widget) : s.Running widget :=
    ((manned.registered_iff widget).1 here).1
  cases move with
  | aborts frees =>
    cases frees with
    | call =>
      obtain ⟨id, at'⟩ := runs (by simpa [left] using stops)
      exact ⟨id, at', by simp⟩
    | widgetEnded => simp [left] at stops
  | interrupts =>
    obtain ⟨id, at'⟩ := runs (by simpa using stops)
    exact ⟨id, at', by simp⟩
  | _ => simp at stops

/-- Whoever takes the login over for an abort while a widget runs tells the widget first, then the
page, and asks for the abort last. -/
lemma Move.tells {Result begun armed decided started stopped} {id : CallId} {widget : WidgetId}
    (move : s.Move event t effects) (standing : Standing Result s begun armed decided)
    (manned : Manned s started stopped) (before : s.phase ≠ .aborting) (after : t.phase = .aborting)
    (runs : s.stage? id = some (.atWidget widget))
    (goes : ∀ outcome, event ≠ .widgetEnded id outcome) :
    ∃ caller, effects = [.abortWidget widget, .hook .onError, .beginExchange caller .abort] := by
  have registered (nonterminal : s.phase.isTerminal = false) : s.registered = some widget := by
    obtain ⟨_, same, here⟩ := standing.of_pending nonterminal runs nofun
    cases same
    exact here
  cases move with
  | stays _ _ phase => exact absurd (phase.symm.trans after) before
  | superseded _ _ _ r | arms _ _ r | fails _ _ _ r =>
    exact absurd (r.phase.symm.trans after) before
  | starts _ _ _ _ r | errs _ _ r | succeeds _ _ r | fallsBack _ _ r =>
    rw [r.phase] at after
    cases after
  | @aborts _ caller _ frees nonterminal =>
    cases frees with
    | call => exact ⟨caller, by simp [left, registered nonterminal]⟩
    | widgetEnded ends =>
      -- the run that ends is the only one there is
      obtain rfl := manned.runner_unique runs ends
      exact absurd rfl (goes _)
  | @interrupts caller _ _ _ _ nonterminal =>
    exact ⟨caller, by simp [registered nonterminal]⟩

/-- A call that runs a widget starts it, if it is the first call and there is something to hand
over. -/
lemma step_start {id : CallId} {entry : Entry} {widget : WidgetId}
    (runs : entry.widget? = some widget) (fresh : s.stage? id = none) :
    (s.step (.call id entry)).2 = (s.start id widget).2 ∧
      (s.step (.call id entry)).1.phase = (s.start id widget).1.phase := by
  rw [stage?_eq_none] at fresh
  simp only [State.step, fresh]
  cases entry with
  | start given | run given =>
    cases runs
    exact ⟨rfl, rfl⟩
  | handleError | abort => cases runs

end State

/-- The widget of a login stands by what was started and told to stop, after every row of events. -/
theorem manned_reached (config : Session.Config) (events : List Event) :
    (reached config events).Manned (startedWidgets (done config events))
      (stoppedWidgets (done config events)) := by
  induction events using List.reverseRecOn with
  | nil => exact .vacant rfl nofun
  | append_singleton events event ih =>
    have standing := standing_reached config events
    have move := (reached config events).step_move event
    rw [reached_concat, done_concat, startedWidgets_append, stoppedWidgets_append]
    refine ih.step (move.turn standing) fun moved idle => ?_
    obtain same | moves := standing.phase_step move
    · exact moved (same.symm.trans idle)
    · exact moves.ne_idle idle

/-- A login starts one widget at most, for the first call and with what there is to hand over. The
widget is registered while it runs, until it is told to stop; it is told once at most and never
after its end, and an abort that takes the login over while it runs tells it first. -/
theorem widget_of_login (config : Session.Config) (events : List Event) :
    let s := reached config events
    let did := done config events
    (startedWidgets did).length ≤ 1 ∧
      (∀ event id widget handover, .startWidget id widget handover ∈ (s.step event).2 →
        (∃ entry, event = .call id entry ∧ entry.widget? = some widget) ∧ s.phase = .idle ∧
          (s.step event).1.phase = .starting ∧ config.Hands handover) ∧
      (∀ id entry widget, entry.widget? = some widget → s.stage? id = none →
        (s.phase ≠ .idle → (s.step (.call id entry)).2 = [.finish id .superseded] ∧
          (s.step (.call id entry)).1.phase = s.phase) ∧
        (s.phase = .idle → ∀ handover, config.Hands handover →
          (s.step (.call id entry)).2 = [.startWidget id widget handover] ∧
            (s.step (.call id entry)).1.phase = .starting) ∧
        (s.phase = .idle → (∀ handover, ¬config.Hands handover) →
          (s.step (.call id entry)).2 = [.hook .onError, .beginExchange id .error] ∧
            (s.step (.call id entry)).1.phase = .erroring)) ∧
      (∀ widget, s.registered = some widget ↔ s.Running widget ∧ widget ∉ stoppedWidgets did) ∧
      (stoppedWidgets did).length ≤ 1 ∧
      (∀ event widget, .abortWidget widget ∈ (s.step event).2 →
        ∃ id, s.stage? id = some (.atWidget widget) ∧ ∀ outcome, event ≠ .widgetEnded id outcome) ∧
      (∀ event id widget, s.phase ≠ .aborting → (s.step event).1.phase = .aborting →
        s.stage? id = some (.atWidget widget) → (∀ outcome, event ≠ .widgetEnded id outcome) →
        ∃ caller, (s.step event).2 =
          [.abortWidget widget, .hook .onError, .beginExchange caller .abort]) := by
  intro s did
  have standing : Standing _ s _ _ _ := standing_reached config events
  have manned : s.Manned (startedWidgets did) (stoppedWidgets did) := manned_reached config events
  have same : s.config = config := reached_config config events
  refine ⟨manned.once.1, ?_, ?_, manned.registered_iff, manned.once.2, ?_, ?_⟩
  · intro event id widget handover starts
    rw [← same]
    exact (s.step_move event).of_starts starts
  · intro id entry widget runs fresh
    rw [(State.step_start runs fresh).1, (State.step_start runs fresh).2]
    refine ⟨fun moved => ?_, fun idle handover given => ?_, fun idle nothing => ?_⟩
    · simp [State.start, moved, State.finish]
    · rw [← same, ← Session.Config.handover_eq_ok] at given
      simp [State.start, idle, given]
    · rw [← same] at nothing
      obtain ⟨failure, refused⟩ := Session.Config.handover_eq_error nothing
      simp [State.start, idle, refused, State.handleError, Phase.isTerminal, State.returnWithError]
  · exact fun event widget => (s.step_move event).of_stops manned
  · exact fun event id widget => (s.step_move event).tells standing manned

end Lifecycle

end DisclosureRelay
