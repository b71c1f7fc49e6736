import DisclosureRelay.Proofs.Lifecycle.Phases

/-!
# The hooks that a login calls

The page is told of an error when a login goes over to an error or to an abort, and that returning
failed for each call that ends with a failure. `hooks_reached` says so of every row of events, and
`announced` that the page is told before the exchange for the error or the abort is begun.
-/

namespace DisclosureRelay.Lifecycle

/-- Whether the user is returned without the result of the session. -/
def Phase.isUnsuccessful : Phase → Bool
  | .idle | .starting | .succeeded => false
  | .erroring | .aborting => true

/-- The hooks that a login in a phase called, of which some calls failed. -/
def hooksOf (phase : Phase) (failed : List (CallId × Failure)) : List Hook :=
  (if phase.isUnsuccessful then [.onError] else []) ++ failed.map fun _ => .onReturningFailed

/-- How often the hooks tell of an error and of a failed return. -/
lemma count_hooksOf (phase : Phase) (failed : List (CallId × Failure)) :
    (hooksOf phase failed).count .onError = (if phase.isUnsuccessful then 1 else 0) ∧
      (hooksOf phase failed).count .onReturningFailed = failed.length := by
  rw [hooksOf, List.map_const']
  split <;> simp [List.count_replicate]

lemma Phase.isUnsuccessful_iff {phase : Phase} :
    phase.isUnsuccessful = true ↔ phase = .erroring ∨ phase = .aborting := by
  cases phase <;> simp [isUnsuccessful]

/-- A login that nobody took over did not turn out unsuccessful. -/
lemma Phase.isUnsuccessful_of_nonterminal {phase : Phase} (nonterminal : phase.isTerminal = false) :
    phase.isUnsuccessful = false := by
  obtain rfl | rfl := Phase.eq_of_nonterminal nonterminal <;> rfl

/-- There is no step out of a phase in which the user is returned without a result. -/
lemma Phase.Moves.isUnsuccessful {phase next : Phase} (moves : phase.Moves next) :
    phase.isUnsuccessful = false := by
  cases moves <;> rfl

lemma hooks_abortWidget (widget : Option WidgetId) :
    hooks (widget.map Effect.abortWidget).toList = [] := by
  cases widget <;> rfl

lemma failedCalls_of_decidedCalls {did : List Effect} (none : decidedCalls did = []) :
    failedCalls did = [] := by
  simp [failedCalls, none]

lemma mem_failedCalls {did : List Effect} {id : CallId} {failure : Failure} :
    (id, failure) ∈ failedCalls did ↔ (id, .failed failure) ∈ decidedCalls did := by
  unfold failedCalls
  rw [List.mem_filterMap]
  constructor
  · rintro ⟨⟨other, ending⟩, mem, same⟩
    cases ending with
    | failed other => cases same; exact mem
    | superseded | returning => cases same
  · exact fun mem => ⟨_, mem, rfl⟩

namespace Standing

variable {Result : Exchange → Except Failure Assertion → Prop} {s t : State} {begun : List Exchange}
  {armed : List Assertion} {did effects : List Effect} {event : Event}

/-- The page is told of an error when a login that was successful so far is so no more. -/
lemma hooks_taken (before : hooks did = hooksOf s.phase (failedCalls did))
    (successful : s.phase.isUnsuccessful = false) (undecided : decidedCalls did = [])
    {more : List Effect} (tells : hooks more = [.onError]) (quiet : decidedCalls more = [])
    {phase : Phase} (unsuccessful : phase.isUnsuccessful = true) :
    hooks (did ++ more) = hooksOf phase (failedCalls (did ++ more)) := by
  rw [hooks_append, before, tells, failedCalls_append, failedCalls_of_decidedCalls undecided,
    failedCalls_of_decidedCalls quiet]
  simp [hooksOf, successful, unsuccessful]

/-- A move that tells the page nothing keeps what it was told. -/
lemma hooks_kept (before : hooks did = hooksOf s.phase (failedCalls did)) {more : List Effect}
    (silent : hooks more = []) (quiet : failedCalls more = []) {phase : Phase}
    (same : phase.isUnsuccessful = s.phase.isUnsuccessful) :
    hooks (did ++ more) = hooksOf phase (failedCalls (did ++ more)) := by
  rw [hooks_append, before, silent, failedCalls_append, quiet, List.append_nil, List.append_nil]
  simp [hooksOf, same]

/-- Every move keeps what the page was told. -/
lemma hooks_step (standing : Standing Result s begun armed (decidedCalls did))
    (move : s.Move event t effects) (before : hooks did = hooksOf s.phase (failedCalls did)) :
    hooks (did ++ effects) = hooksOf t.phase (failedCalls (did ++ effects)) := by
  have claimed (nonterminal : s.phase.isTerminal = false) {more : List Effect}
      (tells : hooks more = [.onError]) (quiet : decidedCalls more = []) {phase : Phase}
      (unsuccessful : phase.isUnsuccessful = true) :
      hooks (did ++ more) = hooksOf phase (failedCalls (did ++ more)) :=
    hooks_taken before (Phase.isUnsuccessful_of_nonterminal nonterminal)
      (standing.of_nonterminal nonterminal).2.2.1 tells quiet unsuccessful
  cases move with
  | stays _ _ phase => exact hooks_kept before rfl rfl (phase ▸ rfl)
  | superseded _ _ _ reaches | arms _ _ reaches =>
    exact hooks_kept before rfl rfl (reaches.phase ▸ rfl)
  | starts _ _ idle _ reaches =>
    exact hooks_kept before rfl rfl (by rw [reaches.phase, idle]; rfl)
  | succeeds _ starting reaches =>
    exact hooks_kept before rfl rfl (by rw [reaches.phase, starting]; rfl)
  | errs _ nonterminal reaches =>
    exact claimed nonterminal rfl rfl (by rw [reaches.phase]; rfl)
  | aborts _ nonterminal reaches | interrupts _ _ nonterminal reaches =>
    refine claimed nonterminal ?_ ?_ (by rw [reaches.phase]; rfl)
    · rw [hooks_append, hooks_abortWidget]
      rfl
    · simp
  | fallsBack waits _ reaches =>
    -- the owner of a success is past the phase in which the login started, and undecided
    obtain ⟨claims, -, undecided, -⟩ := standing.of_inFlight (.inl waits)
    refine hooks_taken before ?_ undecided rfl rfl (by rw [reaches.phase]; rfl)
    rw [claims.of_success.1]
    rfl
  | fails _ _ _ reaches =>
    rw [hooks_append, before, failedCalls_append, reaches.phase, hooksOf, hooksOf, List.map_append,
      List.append_assoc]
    rfl

/-- The calls that failed are those that ended so. -/
lemma failed_iff (standing : Standing Result s begun armed (decidedCalls did)) {id : CallId}
    {failure : Failure} :
    (id, failure) ∈ failedCalls did ↔ s.ending? id = some (.failed failure) := by
  rw [mem_failedCalls, State.ending?_eq_some]
  generalize decidedCalls did = decided at standing
  cases standing with
  | idle _ _ none => simp [none]
  | @starting runner widget _ _ runs rest =>
    refine ⟨nofun, fun ended => ?_⟩
    by_cases same : id = runner
    · simp [same, runs] at ended
    · cases rest id _ same ended
  | @owned owner exchange stage _ _ _ claims at' settles rest =>
    by_cases same : id = owner
    · subst same
      rw [at']
      cases settles <;> simp [eq_comm]
    · -- whoever does not own the login is superseded when it ends
      have other : s.stage? id ≠ some (.ended (.failed failure)) := fun ended => by
        cases rest id _ same ended
      cases settles <;> simp [same, other]

end Standing

/-- The hooks that a login called: of an error once the user is returned without a result, and of a
failed return for each call that failed. -/
theorem hooks_reached (config : Session.Config) (events : List Event) :
    hooks (done config events) =
      hooksOf (reached config events).phase (failedCalls (done config events)) := by
  induction events using List.reverseRecOn with
  | nil => rfl
  | append_singleton events event ih =>
    rw [reached_concat, done_concat]
    exact (standing_reached config events).hooks_step (State.step_move ..) ih

/-- A move that begins the exchange for an error or an abort tells the page before. -/
lemma State.Move.announces {s t : State} {event : Event} {effects before after : List Effect}
    {id : CallId} {exchange : Exchange} (move : s.Move event t effects)
    (row : effects = before ++ .beginExchange id exchange :: after)
    (unsuccessful : exchange = .error ∨ exchange = .abort) : .hook .onError ∈ before := by
  have told (first : List Effect) {caller : CallId} {begun : Exchange}
      (silent : ∀ effect ∈ first, effect.exchange? = none)
      (row : first ++ [.hook .onError, .beginExchange caller begun] =
        before ++ .beginExchange id exchange :: after) : .hook .onError ∈ before := by
    rw [List.append_eq_append_iff] at row
    obtain ⟨rest, rfl, rest'⟩ | ⟨rest, rfl, rest'⟩ := row
    · cases rest with
      | nil => simp at rest'
      | cons head rest =>
        obtain ⟨rfl, -⟩ := List.cons.inj rest'
        simp
    · cases rest with
      | nil => simp at rest'
      | cons head rest =>
        cases rest'
        simpa using silent (.beginExchange id exchange) (by simp)
  cases move with
  | errs | fallsBack => exact told [] nofun row
  | aborts | interrupts => exact told _ (by simp) row
  | _ =>
    -- what is left begins no exchange, or one for a success
    have mem : .beginExchange id exchange ∈ before ++ .beginExchange id exchange :: after := by simp
    rw [← row] at mem
    obtain rfl | rfl := unsuccessful <;> simp at mem

/-- The page is told of an error before the exchange for it is begun. -/
theorem announced {config : Session.Config} {events : List Event} {before after : List Effect}
    {id : CallId} {exchange : Exchange}
    (row : done config events = before ++ .beginExchange id exchange :: after)
    (unsuccessful : exchange = .error ∨ exchange = .abort) : .hook .onError ∈ before := by
  induction events using List.reverseRecOn generalizing after with
  | nil => simp [done, State.run] at row
  | append_singleton events event ih =>
    rw [done_concat, List.append_eq_append_iff] at row
    obtain ⟨rest, rfl, here⟩ | ⟨rest, earlier, here⟩ := row
    · exact List.mem_append_right _
        (((reached config events).step_move event).announces here unsuccessful)
    · cases rest with
      | nil =>
        have told : .hook .onError ∈ ([] : List Effect) :=
          ((reached config events).step_move event).announces here.symm unsuccessful
        cases told
      | cons head rest =>
        cases here
        exact ih earlier

end DisclosureRelay.Lifecycle
