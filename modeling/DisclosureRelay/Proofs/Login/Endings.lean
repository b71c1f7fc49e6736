import DisclosureRelay.Proofs.Assertion.Verdict
import DisclosureRelay.Proofs.Lifecycle.Phases
import DisclosureRelay.Proofs.Login.Lifecycle

/-!
# How the calls of a login end

Of all calls of a login one at most ends otherwise than superseded, and one does once all of them
have ended: the owner of the login. `ending_of_login` says what its ending means: a return with the
assertion of the last exchange was armed, or none was, and the failure is that of an error or an
abort that was not granted.
-/

namespace DisclosureRelay

/-- An answer that carries no assertion has another status, or lacks a field. -/
lemma Assertion.Fields.failure_of_assertion {fields : Fields} {status : Nat} {url : String}
    {failure : Failure} (refused : fields.assertion status url = .error failure) :
    failure = .refused url status ∨ ∃ reason, failure = .invalidAssertion reason := by
  have verdict := fields.verdict status url
  rw [refused] at verdict
  cases verdict with
  | refused => exact .inl rfl
  | unaddressed | unasserted => exact .inr ⟨_, rfl⟩

/-- An exchange that brings no assertion was not answered, or not with an assertion. -/
lemma Exchange.failure_of_conclude {config : Session.Config} {exchange : Exchange}
    {reply : Http.Reply} {failure : Failure}
    (refused : exchange.conclude config reply = .error failure) :
    (∃ fault, failure = .transport fault) ∨
      (∃ status, failure = .refused (exchange.endpoint config) status) ∨
      ∃ reason, failure = .invalidAssertion reason := by
  obtain ⟨status, body, arrived, -⟩ | ⟨_, nothing, -⟩ :=
    JsonAnswer.received_cases (exchange.endpoint config) reply
  · rw [conclude_of_arrived arrived] at refused
    obtain rfl | invalid := Assertion.Fields.failure_of_assertion refused
    · exact .inr (.inl ⟨_, rfl⟩)
    · exact .inr (.inr invalid)
  · obtain ⟨fault, unanswered⟩ := conclude_of_not_arrived nothing
    rw [refused] at unanswered
    cases unanswered
    exact .inl ⟨fault, rfl⟩

namespace Lifecycle

/-- A call that ended otherwise than superseded is decided. -/
lemma mem_decidedCalls {effects : List Effect} {id : CallId} {ending : Ending}
    (finished : (id, ending) ∈ finishedCalls effects) (ne : ending ≠ .superseded) :
    (id, ending) ∈ decidedCalls effects := by
  obtain ⟨effect, mem, same⟩ := List.mem_filterMap.1 finished
  refine List.mem_filterMap.2 ⟨effect, mem, ?_⟩
  cases effect with
  | finish call ended =>
    cases same
    cases ending with
    | superseded => exact absurd rfl ne
    | returning | failed => rfl
  | _ => cases same

/-- The last exchange of a login that is taken over is the one that its owner is at. -/
lemma Claims.getLast? {phase begun exchange} (claims : Claims phase begun exchange) :
    begun.getLast? = some exchange := by
  cases claims <;> rfl

namespace Standing

variable {Result : Exchange → Except Failure Assertion → Prop} {s : State}
  {begun : List Exchange} {armed : List Assertion} {decided : List (CallId × Ending)}

/-- One call at most is decided, and one return at most is armed. -/
lemma length_le_one (standing : Standing Result s begun armed decided) :
    decided.length ≤ 1 ∧ armed.length ≤ 1 := by
  cases standing with
  | idle | starting => simp
  | owned _ _ settles => cases settles <;> simp

/-- When every call has ended, the owner is decided and the rest is superseded. -/
lemma of_quiet (standing : Standing Result s begun armed decided) (called : s.phase ≠ .idle)
    (quiet : s.Quiet) :
    ∃ id ending, decided = [(id, ending)] ∧ ending ≠ .superseded ∧ s.ending? id = some ending ∧
      ∀ other ending', other ≠ id → s.ending? other = some ending' → ending' = .superseded := by
  have ended {id stage} (at' : s.stage? id = some stage) : ∃ ending, stage = .ended ending := by
    obtain ⟨call, made, rfl⟩ := Option.map_eq_some_iff.1 at'
    exact quiet id call made
  cases standing with
  | idle phase => exact absurd phase called
  | starting _ _ runs =>
    obtain ⟨ending, wrong⟩ := ended runs
    cases wrong
  | @owned owner exchange stage _ _ _ claims at' settles rest =>
    have aside other ending' (ne : other ≠ owner) (ends : s.ending? other = some ending') :
        ending' = .superseded := by
      cases rest other _ ne (State.ending?_eq_some.1 ends)
      rfl
    -- every call has ended, and with it the owner's last exchange
    cases settles with
    | waits | interrupted =>
      obtain ⟨ending, wrong⟩ := ended at'
      cases wrong
    | returning => exact ⟨owner, _, rfl, nofun, State.ending?_eq_some.2 at', aside⟩
    | failed => exact ⟨owner, _, rfl, nofun, State.ending?_eq_some.2 at', aside⟩

/-- A call that returns the user has armed the assertion of the last exchange. -/
lemma of_returning (standing : Standing Result s begun armed decided) {id : CallId}
    {assertion : Assertion} (mem : (id, .returning assertion) ∈ decided) :
    armed = [assertion] ∧
      ∃ exchange, begun.getLast? = some exchange ∧ Result exchange (.ok assertion) := by
  cases standing with
  | idle | starting => cases mem
  | @owned owner exchange stage _ _ _ claims at' settles rest =>
    cases settles with
    | waits | interrupted => cases mem
    | returning granted =>
      obtain ⟨-, rfl⟩ : _ ∧ _ := by simpa using mem
      exact ⟨rfl, exchange, claims.getLast?, granted⟩
    | failed => simp at mem

/-- A call that fails has armed nothing, and its last exchange was an error or an abort that was
not granted. -/
lemma of_failed (standing : Standing Result s begun armed decided) {id : CallId}
    {failure : Failure} (mem : (id, .failed failure) ∈ decided) :
    armed = [] ∧ ∃ exchange, begun.getLast? = some exchange ∧
      (exchange = .error ∨ exchange = .abort) ∧ Result exchange (.error failure) := by
  cases standing with
  | idle | starting => cases mem
  | @owned owner exchange stage _ _ _ claims at' settles rest =>
    cases settles with
    | waits | interrupted => cases mem
    | returning => simp at mem
    | failed final refused =>
      obtain ⟨-, rfl⟩ : _ ∧ _ := by simpa using mem
      exact ⟨rfl, exchange, claims.getLast?, final, refused⟩

end Standing

end Lifecycle

namespace Login

open Lifecycle

/-- How the calls of a login end. -/
theorem ending_of_login (config : Session.Config) (settings : Settings) (errorUrl : String)
    (hasError : Bool) (events : List Event) :
    let login := initial config settings errorUrl hasError
    let own := lifecycleEvents events
    let effects := lifecycleEffects (login.run events).2
    let s := (login.run events).1.lifecycle
    (decidedCalls effects).length ≤ 1 ∧ (login.lifecycleAttempts events).length ≤ 1 ∧
      ((∃ id entry, .call id entry ∈ own) → s.Quiet →
        ∃ id ending, decidedCalls effects = [(id, ending)] ∧ ending ≠ .superseded ∧
          s.ending? id = some ending ∧
          ∀ other ending', other ≠ id → s.ending? other = some ending' → ending' = .superseded) ∧
      (∀ id assertion, (id, .returning assertion) ∈ finishedCalls effects →
        (login.lifecycleAttempts events).map (·.form) = [.ofAssertion assertion] ∧
          ∃ exchange, (exchanges effects).getLast? = some exchange ∧
            Concluded config own exchange (.ok assertion)) ∧
      (∀ id failure, (id, .failed failure) ∈ finishedCalls effects →
        login.lifecycleAttempts events = [] ∧
          (∀ reason, failure ≠ .widget reason ∧ failure ≠ .configuration reason) ∧
          ∃ exchange, (exchanges effects).getLast? = some exchange ∧
            (exchange = .error ∨ exchange = .abort) ∧
            Concluded config own exchange (.error failure)) := by
  intro login own effects s
  obtain ⟨state, did⟩ := login.run_lifecycle events
  replace state : s = reached config own := state
  replace did : effects = done config own := did
  have standing := standing_reached config own
  rw [← state, ← did] at standing
  have forms : (login.lifecycleAttempts events).map (·.form) =
      (armedReturns effects).map .ofAssertion :=
    login.lifecycleAttempts_forms events
  have attempts : (login.lifecycleAttempts events).length = (armedReturns effects).length := by
    simpa using congrArg List.length forms
  obtain ⟨decided, armed⟩ := standing.length_le_one
  refine ⟨decided, attempts ▸ armed, ?_, ?_, ?_⟩
  · rintro ⟨id, entry, called⟩ quiet
    refine standing.of_quiet ?_ quiet
    rw [state, ne_eq, reached_idle_iff]
    exact fun none => none id entry called
  · intro id assertion finished
    obtain ⟨one, last⟩ := standing.of_returning (mem_decidedCalls finished nofun)
    rw [forms, one]
    exact ⟨rfl, last⟩
  · intro id failure finished
    obtain ⟨none, exchange, last, final, concluded⟩ :=
      standing.of_failed (mem_decidedCalls finished nofun)
    refine ⟨List.eq_nil_of_length_eq_zero (by rw [attempts, none]; rfl), ?_, exchange, last, final,
      concluded⟩
    obtain ⟨_, _, _, _, -, -, refused⟩ := concluded
    obtain ⟨_, rfl⟩ | ⟨_, rfl⟩ | ⟨_, rfl⟩ := Exchange.failure_of_conclude refused <;>
      exact fun _ => ⟨nofun, nofun⟩

end Login

end DisclosureRelay
