import DisclosureRelay.Proofs.Lifecycle.Exchanges

/-!
# Logins with one call

A login of which one call is made waits for that call alone: with each thing that it waits for the call
comes nearer to its end (`Stage.left`), and it ends with a return or a failure, for nobody is there who
could be faster (`Standing.of_only`). If the call is for an error, the error is all that is ever asked
for (`flagged_reached`).
-/

namespace DisclosureRelay.Lifecycle

/-- How many more times a call waits at most. -/
def Stage.left : Stage → Nat
  | .atWidget _ => 3
  | .atExchange (.success _) => 2
  | .atExchange .error | .atExchange .abort | .interrupted => 1
  | .ended _ => 0

namespace State

variable {s : State} {id : CallId}

/-- A reply brings the call that waits for it nearer to its end. -/
lemma replied_left (exchange : Exchange) (reply : Http.Reply) :
    ∃ stage, (s.replied id exchange reply).1.stage? id = some stage ∧
      stage.left < (Stage.atExchange exchange).left := by
  have pending : 0 < (Stage.atExchange exchange).left := by
    cases exchange <;> simp [Stage.left]
  unfold replied
  split
  · next assertion _ => exact ⟨.ended (.returning assertion), by simp [arm, stage?_moveTo], pending⟩
  · next failure _ =>
    cases exchange with
    | success token =>
      exact ⟨.atExchange .error, by simp [returnWithError, stage?_moveTo], Nat.one_lt_two⟩
    | error | abort => exact ⟨.ended (.failed failure), by simp [fail, stage?_moveTo], pending⟩

lemma step_replied_left {stage : Stage} (waits : s.stage? id = some stage)
    (exchanges : (∃ exchange, stage = .atExchange exchange) ∨ stage = .interrupted)
    (reply : Http.Reply) :
    ∃ next, (s.step (.replied id reply)).1.stage? id = some next ∧ next.left < stage.left := by
  obtain ⟨exchange, rfl⟩ | rfl := exchanges
  · simp only [step, waits]
    exact replied_left exchange reply
  · simp only [step, waits]
    exact replied_left .abort reply

/-- A call for an error waits for one exchange at most. -/
lemma handleError_left (s : State) (id : CallId) :
    ∃ next, (s.handleError id).1.stage? id = some next ∧ next.left ≤ 1 := by
  unfold handleError
  split
  · exact ⟨.ended .superseded, by simp [finish, stage?_moveTo], Nat.zero_le 1⟩
  · exact ⟨.atExchange .error, by simp [returnWithError, stage?_moveTo], Nat.le_refl 1⟩

/-- A call for an abort waits for one exchange at most. -/
lemma abort_left (s : State) (id : CallId) :
    ∃ next, (s.abort id).1.stage? id = some next ∧ next.left ≤ 1 := by
  unfold abort
  split
  · exact ⟨.ended .superseded, by simp [finish, stage?_moveTo], Nat.zero_le 1⟩
  · exact ⟨.atExchange .abort, by simp [stage?_moveTo], Nat.le_refl 1⟩

/-- The end of its widget brings a call nearer to its end. -/
lemma step_widgetEnded_left {widget : WidgetId} (waits : s.stage? id = some (.atWidget widget))
    (outcome : Widget.Outcome) :
    ∃ next, (s.step (.widgetEnded id outcome)).1.stage? id = some next ∧ next.left ≤ 2 := by
  have sooner {u : State} (near : ∃ next, u.stage? id = some next ∧ next.left ≤ 1) :
      ∃ next, u.stage? id = some next ∧ next.left ≤ 2 :=
    near.imp fun _ ⟨at', left⟩ => ⟨at', Nat.le_succ_of_le left⟩
  simp only [step, waits]
  cases outcome with
  | completed token =>
    unfold widgetEnded
    dsimp only
    split
    · exact ⟨.atExchange (.success token), by simp [stage?_moveTo], Nat.le_refl 2⟩
    · exact ⟨.ended .superseded, by simp [finish, stage?_moveTo], Nat.zero_le 2⟩
  | failed reason => exact sooner (handleError_left ..)
  | aborted => exact sooner (abort_left ..)

/-- The interrupt of a run at its widget brings it nearer to its end if nobody took the login over. -/
lemma step_interrupt_left {widget : WidgetId} (made : s.calls id = some ⟨.open, .atWidget widget⟩)
    (nonterminal : s.phase.isTerminal = false) :
    ∃ next, (s.step (.interrupt id)).1.stage? id = some next ∧ next.left ≤ 2 := by
  refine ⟨.interrupted, ?_, Nat.le_succ 1⟩
  simp [step, made, interrupt, nonterminal, stage?_moveTo]

end State

namespace Standing

variable {Result : Exchange → Except Failure Assertion → Prop} {s : State}
  {begun : List Exchange} {armed : List Assertion} {decided : List (CallId × Ending)}

/-- The only call of a login ends with a return, or with a failure of an error or an abort. -/
lemma of_only (standing : Standing Result s begun armed decided) {id : CallId} {ending : Ending}
    (only : ∀ other, other ≠ id → s.stage? other = none) (ended : s.stage? id = some (.ended ending)) :
    (∃ assertion, ending = .returning assertion ∧ armed = [assertion]) ∨
      ∃ failure, ending = .failed failure ∧ armed = [] ∧ (id, .failed failure) ∈ decided ∧
        (s.phase = .erroring ∨ s.phase = .aborting) := by
  cases standing with
  | idle _ _ none => simp [none] at ended
  | @starting runner widget _ _ runs =>
    obtain rfl : runner = id := by
      by_contra other
      simp [only runner other] at runs
    simp [runs] at ended
  | @owned owner exchange stage _ _ _ claims at' settles =>
    obtain rfl : owner = id := by
      by_contra other
      simp [only owner other] at at'
    obtain rfl : stage = .ended ending := Option.some.inj (at'.symm.trans ended)
    cases settles with
    | returning => exact .inl ⟨_, rfl, rfl⟩
    | failed final =>
      refine .inr ⟨_, rfl, rfl, List.mem_singleton_self _, ?_⟩
      generalize s.phase = phase at claims
      cases claims with
      | success => simp at final
      | fallback | error => exact .inl rfl
      | abort => exact .inr rfl

end Standing

/-- Nothing but its own events moves a call. -/
lemma stage?_reached {config : Session.Config} {events : List Event} {id : CallId}
    (other : ∀ event ∈ events, event.caller ≠ id) : (reached config events).stage? id = none := by
  induction events using List.reverseRecOn with
  | nil => rfl
  | append_singleton events event ih =>
    rw [reached_concat, (State.step_move ..).stage_other fun same => other event (by simp) same.symm]
    exact ih fun event mem => other event (by simp [mem])

/-- A run of a new login waits for its widget or for the reply to an error, and may be interrupted. -/
lemma calls_of_run (config : Session.Config) (id : CallId) (widget : WidgetId) :
    let s := reached config [.call id (.run widget)]
    (s.calls id = some ⟨.open, .atWidget widget⟩ ∧ s.phase.isTerminal = false) ∨
      s.calls id = some ⟨.open, .atExchange .error⟩ := by
  intro s
  have begun : s = ((State.initial config).start id widget).1.mark id .open := rfl
  rw [begun]
  cases given : config.handover with
  | error failure =>
    refine .inr ?_
    simp [State.start, State.initial, given, State.handleError, Phase.isTerminal,
      State.returnWithError]
  | ok handover =>
    refine .inl ?_
    simp [State.start, State.initial, given, Phase.isTerminal]

/-- A login of which one call is made, for an error, has asked for the error and for nothing else. -/
structure Flagged (s : State) (id : CallId) (did : List Effect) : Prop where
  stage : s.stage? id = some (.atExchange .error) ∨ ∃ ending, s.stage? id = some (.ended ending)
  terminal : s.phase.isTerminal = true
  exchanges : exchanges did = [.error]
  started : startedWidgets did = []

namespace Flagged

variable {s t : State} {id : CallId} {did effects : List Effect} {event : Event}

/-- The only call of a flagged login is past every widget and every success. -/
lemma not_waits (flagged : Flagged s id did) {stage : Stage} (at' : s.stage? id = some stage) :
    stage = .atExchange .error ∨ ∃ ending, stage = .ended ending := by
  obtain waits | ⟨ending, ended⟩ := flagged.stage
  · exact .inl (Option.some.inj (at'.symm.trans waits))
  · exact .inr ⟨ending, Option.some.inj (at'.symm.trans ended)⟩

/-- No event frees the call. -/
lemma not_frees (flagged : Flagged s id did) : ¬s.Frees event id := by
  intro frees
  cases frees with
  | call fresh => obtain waits | ⟨_, ended⟩ := flagged.stage <;> simp_all
  | widgetEnded waits => simpa using flagged.not_waits waits

/-- Whatever happens to the call, nothing else is asked for. -/
lemma step (flagged : Flagged s id did) (move : s.Move event t effects) (own : event.caller = id) :
    Flagged t id (did ++ effects) := by
  have taken {frees : CallId} (free : s.Frees event frees) : False := by
    obtain rfl : frees = id := free.caller.symm.trans own
    exact flagged.not_frees free
  have ends {ending : Ending} {more : List Effect}
      (reaches : s.Reaches t id s.phase s.registered (.ended ending))
      (silent : Lifecycle.exchanges more = []) (still : startedWidgets more = []) :
      Flagged t id (did ++ more) := by
    refine ⟨.inr ⟨ending, reaches.stage_self⟩, reaches.phase ▸ flagged.terminal, ?_, ?_⟩
    · rw [exchanges_append, flagged.exchanges, silent]
      rfl
    · rw [startedWidgets, List.filterMap_append]
      simp only [startedWidgets] at still
      rw [still, List.append_nil]
      exact flagged.started
  cases move with
  | stays _ _ phase _ stages =>
    rw [List.append_nil]
    exact ⟨(stages id).symm ▸ flagged.stage, phase ▸ flagged.terminal, flagged.exchanges,
      flagged.started⟩
  | superseded frees | errs frees | aborts frees => exact (taken frees).elim
  | starts _ fresh => exact (taken (.call fresh)).elim
  | interrupts _ _ nonterminal => simp [flagged.terminal] at nonterminal
  | succeeds waits | fallsBack waits =>
    obtain rfl := own
    simpa using flagged.not_waits waits
  | arms _ _ reaches | fails _ _ _ reaches =>
    obtain rfl := own
    exact ends reaches rfl rfl

end Flagged

/-- A login whose only call is for an error asks for the error and for nothing else. -/
theorem flagged_reached (config : Session.Config) {id : CallId} {events : List Event}
    (own : ∀ event ∈ events, event.caller = id) :
    Flagged (reached config (.call id .handleError :: events)) id
      (done config (.call id .handleError :: events)) := by
  induction events using List.reverseRecOn with
  | nil =>
    refine ⟨.inl ?_, rfl, rfl, rfl⟩
    show ((State.initial config).returnWithError id).1.stage? id = _
    simp [State.returnWithError, State.stage?_moveTo]
  | append_singleton events event ih =>
    rw [← List.cons_append, reached_concat, done_concat]
    exact (ih fun event mem => own event (by simp [mem])).step (State.step_move ..)
      (own event (by simp))

end DisclosureRelay.Lifecycle
