import DisclosureRelay.Proofs.Lifecycle.Exchanges
import DisclosureRelay.Proofs.Lifecycle.Phases

/-!
# Runs that were interrupted

A run whose interrupt came too late waits for the call that was faster, but what it waits for is its
own widget. An abort stops the widget; a call for an error does not. `waiting_of_taken` says that
the run is left waiting exactly where it was overtaken by a call for an error and the return of that
call is over, and `Deserted.append` that it is left so until its widget ends by itself.
-/

namespace DisclosureRelay.Lifecycle

namespace State

variable {s u : State} {id other : CallId} {stage : Stage}

/-- A call that is moved keeps what became of its interrupt. -/
lemma moveTo_taken (same : u.calls = s.calls) :
    (u.moveTo id stage).Taken other ↔ s.Taken other := by
  unfold Taken
  rw [moveTo_calls, same]
  split
  · next own =>
    rw [own]
    cases s.calls id <;> simp
  · rfl

lemma handleError_taken (same : u.calls = s.calls) :
    (u.handleError id).1.Taken other ↔ s.Taken other := by
  unfold handleError
  split
  · exact moveTo_taken same
  · exact moveTo_taken (u := { u with phase := .erroring }) same

lemma abort_taken (same : u.calls = s.calls) :
    (u.abort id).1.Taken other ↔ s.Taken other := by
  unfold abort
  split
  · exact moveTo_taken same
  · exact moveTo_taken (u := { u with phase := .aborting, registered := none }) same

lemma start_taken {widget : WidgetId} : (s.start id widget).1.Taken other ↔ s.Taken other := by
  unfold start
  split
  · exact moveTo_taken rfl
  · dsimp only
    split
    · exact handleError_taken (u := { s with phase := .starting }) rfl
    · exact moveTo_taken (u := { s with phase := .starting, registered := some widget }) rfl

/-- No interrupt comes with a call. -/
lemma enter_taken {entry : Entry} (taken : (s.enter id entry).1.Taken other) : s.Taken other := by
  cases entry with
  | start widget => exact start_taken.1 taken
  | run widget =>
    have started : (s.start id widget).1.Taken other := by
      unfold Taken enter at taken
      rw [mark_calls] at taken
      split at taken
      · simp at taken
      · exact taken
    exact start_taken.1 started
  | handleError => exact (handleError_taken rfl).1 taken
  | abort => exact (abort_taken rfl).1 taken

lemma widgetEnded_taken {outcome : Widget.Outcome} :
    (s.widgetEnded id outcome).1.Taken other ↔ s.Taken other := by
  cases outcome with
  | completed token =>
    unfold widgetEnded
    dsimp only
    split
    · exact moveTo_taken (u := { s with phase := .succeeded, registered := none }) rfl
    · exact moveTo_taken (u := { s with registered := none }) rfl
  | failed => exact handleError_taken (u := { s with registered := none }) rfl
  | aborted => exact abort_taken (u := { s with registered := none }) rfl

lemma replied_taken {exchange : Exchange} {reply : Http.Reply} :
    (s.replied id exchange reply).1.Taken other ↔ s.Taken other := by
  unfold replied
  split
  · exact moveTo_taken rfl
  · split
    · exact moveTo_taken (u := { s with phase := .erroring }) rfl
    · exact moveTo_taken rfl
    · exact moveTo_taken rfl

lemma interrupt_taken (ne : id ≠ other) : (s.interrupt id).1.Taken other ↔ s.Taken other := by
  have unmarked : (s.mark id .taken).Taken other ↔ s.Taken other := by
    simp [Taken, Ne.symm ne]
  unfold interrupt
  dsimp only
  split
  · exact unmarked
  · exact (moveTo_taken rfl).trans unmarked

/-- An interrupt comes with the event for it and with no other one. -/
lemma taken_step {event : Event} (taken : (s.step event).1.Taken id) :
    s.Taken id ∨ event = .interrupt id := by
  cases event with
  | call caller entry =>
    unfold step at taken
    dsimp only at taken
    split at taken
    · exact .inl (enter_taken taken)
    · exact .inl taken
  | widgetEnded caller outcome =>
    unfold step at taken
    dsimp only at taken
    split at taken
    · exact .inl (widgetEnded_taken.1 taken)
    · exact .inl taken
  | replied caller reply =>
    unfold step at taken
    dsimp only at taken
    split at taken
    · exact .inl (replied_taken.1 taken)
    · exact .inl (replied_taken.1 taken)
    · exact .inl taken
  | interrupt caller =>
    by_cases own : caller = id
    · exact .inr (by rw [own])
    · unfold step at taken
      dsimp only at taken
      split at taken
      · exact .inl ((interrupt_taken own).1 taken)
      · exact .inl ((interrupt_taken own).1 taken)
      · exact .inl taken

/-- A call whose interrupt just came waits for its widget only if the login was taken over. -/
lemma terminal_of_interrupt {widget : WidgetId}
    (before : s.stage? id = some (.atWidget widget)) (fresh : ¬s.Taken id)
    (taken : (s.step (.interrupt id)).1.Taken id)
    (waits : (s.step (.interrupt id)).1.stage? id = some (.atWidget widget)) :
    s.phase.isTerminal = true := by
  obtain ⟨⟨interrupt, stage⟩, made, rfl⟩ := Option.map_eq_some_iff.1 before
  cases interrupt with
  | none => simp [step, made, Taken] at taken
  | taken => exact absurd (by simp [Taken, made]) fresh
  | «open» =>
    by_contra nonterminal
    simp [step, made, State.interrupt, nonterminal, stage?_moveTo] at waits

/-- While a login starts, the call that begins an error exchange is one for an error. -/
lemma handleError_of_begins {entry : Entry} (starting : s.phase = .starting)
    (fresh : s.stage? id = none)
    (begins : .beginExchange id .error ∈ (s.step (.call id entry)).2) : entry = .handleError := by
  rw [stage?_eq_none] at fresh
  have superseded (widget : WidgetId) :
      s.start id widget = s.finish id .superseded := by simp [start, starting]
  cases entry with
  | handleError => rfl
  | start widget => simp [step, fresh, enter, superseded, finish] at begins
  | run widget => simp [step, fresh, enter, superseded, finish] at begins
  | abort => simp [step, fresh, enter, abort, starting, Phase.isTerminal, returnWithAbort] at begins

/-- A call that starts a widget was not there before, and the login starts with it. -/
lemma Move.of_startWidget {t : State} {event effects} {widget : WidgetId} {handover}
    (move : s.Move event t effects) (starts : .startWidget id widget handover ∈ effects) :
    (∃ entry, event = .call id entry) ∧ s.stage? id = none ∧ t.phase = .starting := by
  cases move with
  | @starts runner entry _ _ _ _ fresh _ _ r =>
    obtain ⟨rfl, -, -⟩ : id = runner ∧ _ ∧ _ := by simpa using starts
    exact ⟨⟨entry, rfl⟩, fresh, r.phase⟩
  | _ => simp at starts

/-- A call stays at its widget until the widget ends, once the login was taken over. -/
lemma Move.stays_atWidget {t : State} {event effects} {widget : WidgetId}
    (move : s.Move event t effects) (terminal : s.phase.isTerminal = true)
    (waits : s.stage? id = some (.atWidget widget))
    (runs : ∀ outcome, event ≠ .widgetEnded id outcome) :
    t.stage? id = some (.atWidget widget) := by
  have apart {other exchange} (flight : s.InFlight other exchange) : id ≠ other := by
    rintro rfl
    obtain waits' | ⟨-, waits'⟩ := flight <;> simp [waits] at waits'
  cases move with
  | stays _ _ _ _ stages => exact (stages id).trans waits
  | superseded frees _ _ r =>
    refine (r.stage_other ?_).trans waits
    rintro rfl
    cases frees with
    | call fresh => simp [waits] at fresh
    | widgetEnded => exact runs _ rfl
  | starts _ _ idle => simp [idle, Phase.isTerminal] at terminal
  | errs _ nonterminal | aborts _ nonterminal | interrupts _ _ nonterminal =>
    simp [nonterminal] at terminal
  | succeeds _ starting => simp [starting, Phase.isTerminal] at terminal
  | fallsBack at' _ r => exact (r.stage_other (apart (.inl at'))).trans waits
  | arms flight _ r | fails flight _ _ r => exact (r.stage_other (apart flight)).trans waits

end State

namespace Standing

variable {Result : Exchange → Except Failure Assertion → Prop} {s t : State}
  {begun : List Exchange} {armed : List Assertion} {decided : List (CallId × Ending)}

/-- While a login starts, one call at most is not ended. -/
lemma pending_unique (standing : Standing Result s begun armed decided)
    (starting : s.phase = .starting) {id other : CallId} {stage stage' : Stage}
    (at' : s.stage? id = some stage) (pending : ∀ ending, stage ≠ .ended ending)
    (at'' : s.stage? other = some stage') (pending' : ∀ ending, stage' ≠ .ended ending) :
    other = id := by
  cases standing with
  | idle idle => simp [starting] at idle
  | @starting runner _ _ _ _ rest =>
    have first : id = runner := by
      by_contra ne
      exact pending _ (rest id stage ne at')
    have second : other = runner := by
      by_contra ne
      exact pending' _ (rest other stage' ne at'')
    rw [first, second]
  | owned claims =>
    have terminal := claims.isTerminal
    simp [starting, Phase.isTerminal] at terminal

/-- An exchange that was begun is in flight until the login is decided. -/
lemma exists_inFlight (standing : Standing Result s begun armed decided) (asked : begun ≠ [])
    (undecided : decided = []) : ∃ id exchange, s.InFlight id exchange := by
  cases standing with
  | idle | starting => exact absurd rfl asked
  | @owned owner exchange stage _ _ _ claims at' settles rest =>
    cases settles with
    | waits => exact ⟨owner, exchange, .inl at'⟩
    | interrupted => exact ⟨owner, .abort, .inr ⟨rfl, at'⟩⟩
    | returning | failed => simp at undecided

/-- A login that starts goes on starting while its runner stays at its widget, or the widget is told
to stop, or a new call begins an error exchange. -/
lemma overtaken_step {event : Event} {effects : List Effect} {id : CallId} {widget : WidgetId}
    (standing : Standing Result s begun armed decided) (move : s.Move event t effects)
    (starting : s.phase = .starting) (before : s.stage? id = some (.atWidget widget))
    (waits : t.stage? id = some (.atWidget widget)) :
    t.phase = .starting ∨ .abortWidget widget ∈ effects ∨
      ∃ other entry, event = .call other entry ∧ s.stage? other = none ∧
        .beginExchange other .error ∈ effects := by
  have nonterminal : s.phase.isTerminal = false := by rw [starting]; rfl
  obtain ⟨_, same, registered⟩ := standing.of_pending nonterminal before (by simp)
  cases same
  -- no other call is under way that could leave a widget or be interrupted
  have alone {other stage phase registered next} (at' : s.stage? other = some stage)
      (pending : ∀ ending, stage ≠ .ended ending)
      (r : s.Reaches t other phase registered next) : next = .atWidget widget := by
    obtain rfl := standing.pending_unique starting before (by simp) at' pending
    rw [r.stage_self] at waits
    exact Option.some.inj waits
  have nobody {other exchange} : ¬s.InFlight other exchange := fun flight => by
    have terminal := (standing.of_inFlight flight).1.isTerminal
    simp [nonterminal] at terminal
  cases move with
  | stays _ _ phase => exact .inl (phase.trans starting)
  | superseded _ _ _ r => exact .inl (r.phase.trans starting)
  | starts _ _ idle => simp [starting] at idle
  | errs frees _ r =>
    cases frees with
    | call fresh => exact .inr (.inr ⟨_, _, rfl, fresh, by simp⟩)
    | widgetEnded at' => cases alone at' (by simp) r
  | aborts frees _ r =>
    cases frees with
    | call fresh => exact .inr (.inl (by simp [State.left, registered]))
    | widgetEnded at' => cases alone at' (by simp) r
  | interrupts at' pending _ r => cases alone at' pending r
  | succeeds at' _ r => cases alone at' (by simp) r
  | fallsBack at' => exact absurd (.inl at') nobody
  | arms flight | fails flight => exact absurd flight nobody

end Standing

variable {config : Session.Config} {events : List Event} {id : CallId} {widget : WidgetId}

/-- A login that was taken over for an abort began no other exchange. -/
lemma exchanges_of_abort (abort : .abort ∈ exchanges (done config events)) :
    exchanges (done config events) = [.abort] := by
  generalize exchanges (done config events) = begun,
    (standing_reached config events).exchangeCourse = course at abort ⊢
  cases course <;> simp_all

/-- A widget is told to stop by a call that begins the abort exchange. -/
lemma abort_mem_exchanges (stopped : .abortWidget widget ∈ done config events) :
    .abort ∈ exchanges (done config events) := by
  induction events using List.reverseRecOn with
  | nil => cases stopped
  | append_singleton events event ih =>
    rw [done_concat] at stopped ⊢
    rw [exchanges_append, List.mem_append]
    obtain before | now := List.mem_append.1 stopped
    · exact .inl (ih before)
    · have move := (reached config events).step_move event
      generalize ((reached config events).step event).2 = effects at move now ⊢
      cases move with
      | aborts | interrupts => exact .inr (by simp)
      | _ => simp at now

lemma overtaken_concat (config : Session.Config) (events : List Event) (event : Event) (id : CallId)
    (widget : WidgetId) :
    Overtaken config (events ++ [event]) id widget ↔
      Overtaken config events id widget ∨
        (reached config events).phase = .starting ∧
          (reached config events).stage? id = some (.atWidget widget) ∧
          ∃ other, event = .call other .handleError ∧ (reached config events).stage? other = none :=
  Machine.meets_concat ..

/-- A login in which a call was overtaken began an error exchange and no other one. -/
lemma exchanges_of_overtaken (overtaken : Overtaken config events id widget) :
    exchanges (done config events) = [.error] := by
  have course := (standing_reached config events).exchangeCourse
  induction events using List.reverseRecOn with
  | nil => exact absurd overtaken (Machine.meets_nil _ _ _)
  | append_singleton events event ih =>
    rw [done_concat, exchanges_append] at course ⊢
    obtain before | ⟨starting, -, other, rfl, fresh⟩ := (overtaken_concat ..).1 overtaken
    · -- nothing comes after an error exchange
      rw [ih before (standing_reached config events).exchangeCourse] at course ⊢
      generalize exchanges ((reached config events).step event).2 = more at course ⊢
      cases course
      rfl
    · have nonterminal : (reached config events).phase.isTerminal = false := by
        rw [starting]
        rfl
      obtain ⟨none, -⟩ := (standing_reached config events).of_nonterminal nonterminal
      rw [State.stage?_eq_none] at fresh
      simp [none, State.step, fresh, State.enter, State.handleError, nonterminal,
        State.returnWithError]

/-- A call waits for its widget while the login starts, or the widget was told to stop, or the call
was overtaken. -/
lemma atWidget_reached (waits : (reached config events).stage? id = some (.atWidget widget)) :
    (reached config events).phase = .starting ∨ .abortWidget widget ∈ done config events ∨
      Overtaken config events id widget := by
  induction events using List.reverseRecOn with
  | nil => cases waits
  | append_singleton events event ih =>
    have standing := standing_reached config events
    have move := (reached config events).step_move event
    rw [reached_concat] at waits
    rw [reached_concat, done_concat, overtaken_concat, List.mem_append]
    obtain before | ⟨handover, -, started⟩ := move.of_atWidget waits
    · obtain starting | stopped | overtaken := ih before
      · obtain starts | stops | ⟨other, entry, rfl, fresh, begins⟩ :=
          standing.overtaken_step move starting before waits
        · exact .inl starts
        · exact .inr (.inl (.inr stops))
        · obtain rfl := State.handleError_of_begins starting fresh begins
          exact .inr (.inr (.inr ⟨starting, before, other, rfl, fresh⟩))
      · exact .inr (.inl (.inl stopped))
      · exact .inr (.inr (.inl overtaken))
    · exact .inl (move.of_startWidget started).2.2

/-- A login in a terminal phase stays in one. -/
lemma terminal_concat (terminal : (reached config events).phase.isTerminal = true) (event : Event) :
    (reached config (events ++ [event])).phase.isTerminal = true := by
  rw [reached_concat]
  obtain same | moves :=
    (standing_reached config events).phase_step ((reached config events).step_move event)
  · rw [same, terminal]
  · exact moves.isTerminal terminal

/-- A call whose interrupt came waits for its widget only in a login that was taken over. -/
lemma terminal_of_taken (taken : (reached config events).Taken id)
    (waits : (reached config events).stage? id = some (.atWidget widget)) :
    (reached config events).phase.isTerminal = true := by
  induction events using List.reverseRecOn with
  | nil => cases waits
  | append_singleton events event ih =>
    have move := (reached config events).step_move event
    rw [reached_concat] at taken waits
    have before := move.of_atWidget waits
    by_cases earlier : (reached config events).Taken id
    · obtain before | ⟨handover, -, started⟩ := before
      · exact terminal_concat (ih earlier before) event
      · obtain ⟨-, fresh, -⟩ := move.of_startWidget started
        rw [State.stage?_eq_none] at fresh
        simp [State.Taken, fresh] at earlier
    · -- the interrupt came with the last event
      obtain rfl := (State.taken_step taken).resolve_left earlier
      obtain before | ⟨handover, -, started⟩ := before
      · exact terminal_concat (State.terminal_of_interrupt before earlier taken waits) _
      · obtain ⟨⟨_, call⟩, -⟩ := move.of_startWidget started
        cases call

/-- A call that is deserted stays so until its widget ends. -/
theorem Deserted.append (deserted : Deserted config events id widget) {more : List Event}
    (runs : ∀ outcome, .widgetEnded id outcome ∉ more) :
    Deserted config (events ++ more) id widget := by
  induction more using List.reverseRecOn with
  | nil => simpa using deserted
  | append_singleton more event ih =>
    have before := ih fun outcome mem => runs outcome (List.mem_append_left _ mem)
    rw [← List.append_assoc]
    have asked := exchanges_of_overtaken before.overtaken
    -- an exchange was begun, so that somebody took the login over
    have terminal : (reached config (events ++ more)).phase.isTerminal = true := by
      by_contra nonterminal
      obtain ⟨none, -⟩ := (standing_reached config (events ++ more)).of_nonterminal
        (by simpa using nonterminal)
      simp [none] at asked
    refine ⟨(overtaken_concat ..).2 (.inl before.overtaken), ?_, ?_⟩
    · rw [reached_concat]
      have move := (reached config (events ++ more)).step_move event
      refine move.stays_atWidget terminal before.waits ?_
      rintro outcome rfl
      exact runs outcome (by simp)
    · rw [done_concat, decidedCalls_append]
      simp [before.decided]

/-- A run whose interrupt came has an exchange in flight or a widget that was told to stop, unless it
is deserted; then it waits until its widget ends by itself. -/
theorem waiting_of_taken (config : Session.Config) (events : List Event) (id : CallId)
    (stage : Stage)
    (taken : (reached config events).calls id = some ⟨.taken, stage⟩)
    (pending : ∀ ending, stage ≠ .ended ending) :
    ((∃ other exchange, (reached config events).InFlight other exchange) ∨
        (∃ widget, stage = .atWidget widget ∧ .abortWidget widget ∈ done config events) ↔
      ¬∃ widget, Deserted config events id widget) ∧
      ∀ widget more, Deserted config events id widget →
        (∀ outcome, .widgetEnded id outcome ∉ more) →
        Deserted config (events ++ more) id widget := by
  have at' : (reached config events).stage? id = some stage := by simp [State.stage?, taken]
  refine ⟨?_, fun widget more deserted => deserted.append⟩
  cases stage with
  | ended ending => exact absurd rfl (pending ending)
  | atExchange exchange =>
    refine iff_of_true (.inl ⟨id, exchange, .inl at'⟩) ?_
    rintro ⟨widget, -, waits, -⟩
    simp [at'] at waits
  | interrupted =>
    refine iff_of_true (.inl ⟨id, .abort, .inr ⟨rfl, at'⟩⟩) ?_
    rintro ⟨widget, -, waits, -⟩
    simp [at'] at waits
  | atWidget widget =>
    have standing := standing_reached config events
    constructor
    · rintro (⟨other, exchange, flight⟩ | ⟨other, -, stopped⟩) ⟨_, overtaken, waits, decided⟩
      · exact decided (standing.of_inFlight flight).2.2.1
      · have asked := exchanges_of_abort (abort_mem_exchanges stopped)
        rw [exchanges_of_overtaken overtaken] at asked
        cases asked
    · intro left
      obtain starting | stopped | overtaken := atWidget_reached at'
      · -- an interrupt of a run that starts is an abort, and the run does not stay at its widget
        have terminal := terminal_of_taken (by simp [State.Taken, taken]) at'
        simp [starting, Phase.isTerminal] at terminal
      · exact .inr ⟨widget, rfl, stopped⟩
      · refine .inl (standing.exists_inFlight (by simp [exchanges_of_overtaken overtaken]) ?_)
        by_contra decided
        exact left ⟨widget, overtaken, at', decided⟩

/-- A run that is interrupted after another call returned the user with an error, in vain, is left
waiting; an abort that is called then does not help it. -/
theorem waiting_of_taken_after_error :
    let config : Session.Config :=
      { server := "s", assertUrl := "a", errorAssertUrl := "e", parameters := ""
        session := some { pointer := { address := "irma/session/1", metadata := [] }, token := "t" } }
    let events : List Event :=
      [.call 0 (.run 7), .call 1 .handleError, .replied 1 .none, .interrupt 0]
    (reached config events).calls 0 = some ⟨.taken, .atWidget 7⟩ ∧
      ¬((∃ other exchange, (reached config events).InFlight other exchange) ∨
        ∃ widget, Stage.atWidget 7 = .atWidget widget ∧ .abortWidget widget ∈ done config events) ∧
      Deserted config (events ++ [.call 2 .abort]) 0 7 := by
  intro config events
  have taken : (reached config events).calls 0 = some ⟨.taken, .atWidget 7⟩ := by decide +kernel
  obtain ⟨waiting, stays⟩ := waiting_of_taken config events 0 (.atWidget 7) taken nofun
  have decided : (decidedCalls (done config events)).length = 1 := by decide +kernel
  have deserted : Deserted config events 0 7 :=
    { overtaken := ⟨[.call 0 (.run 7)], .call 1 .handleError, [.replied 1 .none, .interrupt 0], rfl,
        by decide +kernel, by decide +kernel, 1, rfl, by decide +kernel⟩
      waits := by decide +kernel
      decided := List.ne_nil_of_length_eq_add_one decided }
  refine ⟨taken, fun served => waiting.1 served ⟨7, deserted⟩, stays 7 _ deserted (by simp)⟩

/-- A run whose interrupt came can be left waiting for a widget that nobody told to stop, while no
exchange is in flight. -/
theorem taken_does_not_exclude_waiting :
    ¬∀ (config : Session.Config) (events : List Event) (id : CallId) (stage : Stage),
      (reached config events).calls id = some ⟨.taken, stage⟩ →
      (∀ ending, stage ≠ .ended ending) →
      (∃ other exchange, (reached config events).InFlight other exchange) ∨
        ∃ widget, stage = .atWidget widget ∧ .abortWidget widget ∈ done config events := by
  intro served
  let config : Session.Config :=
    { server := "s", assertUrl := "a", errorAssertUrl := "e", parameters := ""
      session := some { pointer := { address := "irma/session/1", metadata := [] }, token := "t" } }
  let events : List Event :=
    [.call 0 (.run 7), .call 1 .handleError, .replied 1 .none, .interrupt 0]
  have decided : (decidedCalls (done config events)).length = 1 := by decide +kernel
  have asked : exchanges (done config events) = [.error] := by decide +kernel
  obtain ⟨other, exchange, flight⟩ | ⟨widget, -, stopped⟩ :=
    served config events 0 (.atWidget 7) (by decide +kernel) nofun
  · simp [(standing_reached config events).of_inFlight flight |>.2.2.1] at decided
  · simp [exchanges_of_abort (abort_mem_exchanges stopped)] at asked

end DisclosureRelay.Lifecycle
