import DisclosureRelay.Proofs.Lifecycle.Standing

/-!
# The phases of a login

The phase of a login is what its history says: whether a call was made, whether a call that runs a
widget came first, and which exchanges were begun. `Phase.Moves` lists the steps from one phase to
another; there is none out of a terminal phase but the one from a success that was refused to the
error that follows it.
-/

namespace DisclosureRelay.Lifecycle

/-- The steps from a phase to another one. -/
inductive Phase.Moves : Phase → Phase → Prop where
  | start : Moves .idle .starting
  | errorAtOnce : Moves .idle .erroring
  | error : Moves .starting .erroring
  | abortAtOnce : Moves .idle .aborting
  | abort : Moves .starting .aborting
  | success : Moves .starting .succeeded
  | fallback : Moves .succeeded .erroring

/-- A call that runs a widget found the login as it was at first. -/
def StartWon (config : Session.Config) (events : List Event) : Prop :=
  ∃ before id entry after widget, events = before ++ .call id entry :: after ∧
    entry.widget? = some widget ∧ (reached config before).phase = .idle

lemma Phase.eq_of_nonterminal {phase : Phase} (nonterminal : phase.isTerminal = false) :
    phase = .idle ∨ phase = .starting := by
  cases phase <;> simp_all [Phase.isTerminal]

/-- A step ends in no phase before the first call. -/
lemma Phase.Moves.ne_idle {phase next : Phase} (moves : phase.Moves next) : next ≠ .idle := by
  cases moves <;> nofun

/-- A step out of a terminal phase ends in one. -/
lemma Phase.Moves.isTerminal {phase next : Phase} (moves : phase.Moves next)
    (terminal : phase.isTerminal = true) : next.isTerminal = true := by
  cases moves <;> first | rfl | cases terminal

/-- A login that nobody took over can be taken over for an error and for an abort. -/
lemma Phase.moves_of_nonterminal {phase : Phase} (nonterminal : phase.isTerminal = false) :
    phase.Moves .erroring ∧ phase.Moves .aborting := by
  obtain rfl | rfl := Phase.eq_of_nonterminal nonterminal
  · exact ⟨.errorAtOnce, .abortAtOnce⟩
  · exact ⟨.error, .abort⟩

/-- A login starts when a call that runs a widget finds it as it was at first. -/
lemma State.Move.of_starting {s t : State} {event effects} (move : s.Move event t effects)
    (starting : t.phase = .starting) :
    s.phase = .starting ∨ s.phase = .idle ∧
      ∃ id entry widget, event = .call id entry ∧ entry.widget? = some widget := by
  cases move with
  | stays _ _ phase => exact .inl (phase.symm.trans starting)
  | starts runs _ idle => exact .inr ⟨idle, _, _, _, rfl, runs⟩
  | superseded _ _ _ r | arms _ _ r | fails _ _ _ r => exact .inl (r.phase.symm.trans starting)
  | errs _ _ r | aborts _ _ r | interrupts _ _ _ r | succeeds _ _ r | fallsBack _ _ r =>
    rw [r.phase] at starting
    cases starting

namespace Standing

variable {Result : Exchange → Except Failure Assertion → Prop} {s t : State}
  {begun : List Exchange} {armed : List Assertion} {decided : List (CallId × Ending)}

/-- The phase only moves by the steps that there are. -/
lemma phase_step {event : Event} {effects : List Effect}
    (standing : Standing Result s begun armed decided) (move : s.Move event t effects) :
    t.phase = s.phase ∨ s.phase.Moves t.phase := by
  cases move with
  | stays _ _ phase => exact .inl phase
  | superseded _ _ _ r | arms _ _ r | fails _ _ _ r => exact .inl r.phase
  | starts _ _ idle _ r =>
    rw [idle, r.phase]
    exact .inr .start
  | errs _ nonterminal r =>
    rw [r.phase]
    exact .inr (Phase.moves_of_nonterminal nonterminal).1
  | aborts _ nonterminal r | interrupts _ _ nonterminal r =>
    rw [r.phase]
    exact .inr (Phase.moves_of_nonterminal nonterminal).2
  | succeeds _ starting r =>
    rw [starting, r.phase]
    exact .inr .success
  | fallsBack waits _ r =>
    -- the phase is written whatever it was, but the owner of a success is still where it was
    obtain ⟨claims, -⟩ := standing.of_inFlight (.inl waits)
    obtain ⟨succeeded, -⟩ := claims.of_success
    rw [succeeded, r.phase]
    exact .inr .fallback

/-- A login leaves its first phase with the first call and with nothing else. -/
lemma idle_step {event : Event} {effects : List Effect}
    (standing : Standing Result s begun armed decided) (move : s.Move event t effects)
    (idle : s.phase = .idle) : t.phase = .idle ↔ ∀ id entry, event ≠ .call id entry := by
  have none := standing.of_idle idle
  have nobody {id exchange} : ¬s.InFlight id exchange := by simp [State.InFlight, none]
  cases move with
  | stays made _ phase =>
    refine ⟨fun _ id entry call => made id entry call (none id), fun _ => phase.trans idle⟩
  | superseded frees call _ _ =>
    cases frees with
    | call _ => exact absurd idle (call _ _ rfl)
    | widgetEnded waits => simp [none] at waits
  | starts _ _ _ _ r =>
    rw [r.phase]
    exact ⟨by simp, fun call => absurd rfl (call _ _)⟩
  | errs frees _ r | aborts frees _ r =>
    rw [r.phase]
    cases frees with
    | call _ => exact ⟨by simp, fun call => absurd rfl (call _ _)⟩
    | widgetEnded waits => simp [none] at waits
  | interrupts waits | succeeds waits | fallsBack waits => simp [none] at waits
  | arms flight | fails flight => exact absurd flight nobody

/-- A success was begun last by a login that succeeded, where it is in flight or was granted. -/
lemma succeeded_iff (standing : Standing Result s begun armed decided) :
    s.phase = .succeeded ↔ ∃ token, begun = [.success token] ∧
      ((∃ id, s.InFlight id (.success token)) ∨
        ∃ assertion, Result (.success token) (.ok assertion)) := by
  cases standing with
  | idle phase | starting phase => simp [phase]
  | @owned owner exchange stage _ _ _ claims at' settles rest =>
    constructor
    · intro succeeded
      rw [succeeded] at claims
      cases claims with
      | success =>
        refine ⟨_, rfl, ?_⟩
        cases settles with
        | waits => exact .inl ⟨owner, .inl at'⟩
        | returning granted => exact .inr ⟨_, granted⟩
        | failed final => simp at final
    · rintro ⟨token, rfl, -⟩
      generalize s.phase = phase at claims
      cases claims
      rfl

/-- An error was begun last by a login that errs. -/
lemma erroring_iff (standing : Standing Result s begun armed decided) :
    s.phase = .erroring ↔ begun = [.error] ∨ ∃ token, begun = [.success token, .error] := by
  cases standing with
  | idle phase | starting phase => simp [phase]
  | owned claims =>
    generalize s.phase = phase at claims
    cases claims <;> simp

/-- An abort was begun by a login that aborts. -/
lemma aborting_iff (standing : Standing Result s begun armed decided) :
    s.phase = .aborting ↔ begun = [.abort] := by
  cases standing with
  | idle phase | starting phase => simp [phase]
  | owned claims =>
    generalize s.phase = phase at claims
    cases claims <;> simp

/-- Nothing was begun by a login that nobody took over. -/
lemma nonterminal_iff (standing : Standing Result s begun armed decided) :
    s.phase.isTerminal = false ↔ begun = [] := by
  cases standing with
  | idle phase | starting phase => simp [phase, Phase.isTerminal]
  | owned claims =>
    generalize s.phase = phase at claims
    cases claims <;> simp [Phase.isTerminal]

end Standing

/-- A login is in its first phase until a call is made. -/
lemma reached_idle_iff (config : Session.Config) (events : List Event) :
    (reached config events).phase = .idle ↔ ∀ id entry, .call id entry ∉ events := by
  induction events using List.reverseRecOn with
  | nil => exact ⟨fun _ _ _ => List.not_mem_nil, fun _ => rfl⟩
  | append_singleton events event ih =>
    have standing := standing_reached config events
    have move := (reached config events).step_move event
    rw [reached_concat]
    by_cases idle : (reached config events).phase = .idle
    · rw [standing.idle_step move idle]
      have before := ih.1 idle
      simp [before, eq_comm]
    · -- no step leads back to the first phase
      have called : ¬∀ id entry, .call id entry ∉ events := fun none => idle (ih.2 none)
      constructor
      · intro next
        obtain same | moves := standing.phase_step move
        · exact absurd (same.symm.trans next) idle
        · exact absurd next moves.ne_idle
      · intro none
        exact absurd (fun id entry made => none id entry (List.mem_append_left _ made)) called

/-- A login that starts was begun by a call that runs a widget. -/
lemma startWon_of_starting {config : Session.Config} {events : List Event}
    (starting : (reached config events).phase = .starting) : StartWon config events := by
  induction events using List.reverseRecOn with
  | nil => cases starting
  | append_singleton events event ih =>
    rw [reached_concat] at starting
    obtain started | ⟨idle, id, entry, widget, rfl, runs⟩ :=
      ((reached config events).step_move event).of_starting starting
    · obtain ⟨before, id, entry, after, widget, rfl, runs, idle⟩ := ih started
      exact ⟨before, id, entry, after ++ [event], widget, by simp, runs, idle⟩
    · exact ⟨events, id, entry, [], widget, rfl, runs, idle⟩

/-- The phase of a login is what its history says, and moves only by the steps that there are. -/
theorem phase_of_history (config : Session.Config) (events : List Event) :
    ((reached config events).phase = .idle ↔ ∀ id entry, .call id entry ∉ events) ∧
      ((reached config events).phase = .starting ↔
        StartWon config events ∧ exchanges (done config events) = []) ∧
      ((reached config events).phase = .succeeded ↔
        ∃ token, exchanges (done config events) = [.success token] ∧
          ((∃ id, (reached config events).InFlight id (.success token)) ∨
            ∃ assertion, Concluded config events (.success token) (.ok assertion))) ∧
      ((reached config events).phase = .erroring ↔
        exchanges (done config events) = [.error] ∨
          ∃ token, exchanges (done config events) = [.success token, .error]) ∧
      ((reached config events).phase = .aborting ↔ exchanges (done config events) = [.abort]) ∧
      (∀ event,
        ((reached config events).step event).1.phase = (reached config events).phase ∨
          (reached config events).phase.Moves ((reached config events).step event).1.phase) ∧
      (∀ event, (reached config events).phase.isTerminal = true →
        ((reached config events).step event).1.phase.isTerminal = true) ∧
      (∀ id token reply failure,
        (reached config events).stage? id = some (.atExchange (.success token)) →
        (Exchange.success token).conclude config reply = .error failure →
        (reached config events).phase = .succeeded ∧
          ((reached config events).step (.replied id reply)).1.phase = .erroring) := by
  have standing := standing_reached config events
  have step event := standing.phase_step ((reached config events).step_move event)
  refine ⟨reached_idle_iff config events, ?_, standing.succeeded_iff, standing.erroring_iff,
    standing.aborting_iff, step, ?_, ?_⟩
  · constructor
    · intro starting
      refine ⟨startWon_of_starting starting, standing.nonterminal_iff.1 ?_⟩
      rw [starting]
      rfl
    · rintro ⟨⟨before, id, entry, after, widget, rfl, -⟩, begun⟩
      obtain idle | starting := Phase.eq_of_nonterminal (standing.nonterminal_iff.2 begun)
      · exact absurd (by simp) ((reached_idle_iff config _).1 idle id entry)
      · exact starting
  · intro event terminal
    obtain same | moves := step event
    · rw [same, terminal]
    · exact moves.isTerminal terminal
  · intro id token reply failure waits refused
    obtain ⟨claims, -⟩ := standing.of_inFlight (.inl waits)
    refine ⟨claims.of_success.1, ?_⟩
    rw [← reached_config config events] at refused
    simp [State.step, waits, State.replied, refused, State.returnWithError]

end DisclosureRelay.Lifecycle
