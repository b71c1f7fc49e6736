import DisclosureRelay.Proofs.Return.Cancel
import DisclosureRelay.Proofs.Return.Course

/-!
# What becomes of an attempt

An attempt submits its form at the time for it unless it is cancelled before, and it tells the page
that returning failed at the time for that unless it is cancelled or takes the user away before.
`course_of_attempt` says so for every row of events, together with how the attempt ends, that an
attempt that ended stays as it ended, and that cancelling it is nothing to the other attempts.
-/

namespace DisclosureRelay.Return.Schedule

variable {s : Schedule} {id : AttemptId} {attempt next : Attempt} {event : Event} {now : Nat}
  {effects : List Attempt.Effect} {outcome : Except Failure Unit}

lemma outcome?_eq (found : s.attempts[id]? = some attempt) : s.outcome? id = attempt.outcome? := by
  simp [outcome?, found]

/-- An attempt that ended in a failure is one whose fallback fired. -/
lemma outcome?_fired {attempt : Attempt} :
    attempt.outcome? = some (.error .returnTimeout) ↔ attempt.fallback = .fired := by
  unfold Attempt.outcome?
  split <;> simp_all

/-- An attempt ended when its fallback is decided. -/
lemma outcome?_isSome {attempt : Attempt} :
    attempt.outcome?.isSome ↔ attempt.fallback ≠ .armed := by
  unfold Attempt.outcome?
  split <;> simp_all

/-- An attempt that ended otherwise did so well. -/
lemma outcome?_not_fired {attempt : Attempt} (ended : attempt.outcome? = some outcome)
    (quiet : attempt.fallback ≠ .fired) : outcome = .ok () := by
  unfold Attempt.outcome? at ended
  split at ended <;> simp_all

/-- No move changes the fallback of an attempt that ended. -/
lemma Move.fallback (move : s.Move id attempt event now next effects)
    (decided : attempt.fallback ≠ .armed) : next.fallback = attempt.fallback := by
  cases move with
  | warns armed => exact absurd armed decided
  | leaves | cancels => exact if_neg decided
  | waits | submits | fails | late => rfl

/-- An attempt that ended stays as it ended. -/
theorem outcome?_run (ended : s.outcome? id = some outcome) (events : List Event) :
    (s.run events).1.outcome? id = some outcome := by
  induction events generalizing s with
  | nil => exact ended
  | cons event events ih =>
    obtain ⟨attempt, found, decided⟩ := Option.bind_eq_some_iff.1 ended
    obtain ⟨next, effects, found', -, move⟩ := step_move found event
    have same : next.fallback = attempt.fallback :=
      move.fallback (outcome?_isSome.1 (Option.isSome_of_eq_some decided))
    have kept : next.outcome? = some outcome := by rwa [Attempt.outcome?, same]
    exact ih ((outcome?_eq found').trans kept)

/-- Cancelling an attempt is nothing to the others, now or on what comes after it. -/
theorem cancel_spares (found : s.attempts[id]? = some attempt) {events : List Event}
    (timely : s.Timely events) {other : AttemptId} (ne : other ≠ id) :
    ((s.step (.cancel id)).1.run events).1.attempts[other]? = (s.run events).1.attempts[other]? ∧
      own other (s.run (.cancel id :: events)).2 = own other (s.run events).2 := by
  obtain ⟨spared, did⟩ := (spared_cancel found).run timely
  refine ⟨spared.others other ne, ?_⟩
  rw [run_cons, own_append, did other ne]
  have nothing : own other (s.step (.cancel id)).2 = [] := (s.act_other (Ne.symm ne) .cancel).2
  rw [nothing]
  rfl

/-- What becomes of an attempt, whatever its settings, the end of its submission, the cancels and the
other attempts are. -/
theorem course_of_attempt (s : Schedule) (assertion : Assertion) (settings : Settings)
    (events : List Event) :
    let id := s.attempts.length
    let form := Form.ofAssertion assertion
    let submitAt := s.now + settings.submitDelayMs
    let fallbackAt := s.now + settings.fallbackTimeoutMs
    let armed := (s.step (.arm assertion settings)).1
    let last := (armed.run events).1
    let did := (armed.run events).2
    (submissions id did = [(submitAt, form)] ∨ submissions id did = []) ∧
      (submissions id did = [(submitAt, form)] ↔
        ¬last.Awaits id .submit submitAt ∧
          ¬armed.CancelledBefore events id .submit submitAt) ∧
      (warnings id did = [fallbackAt] ∨ warnings id did = []) ∧
      (warnings id did = [fallbackAt] ↔
        ¬last.Awaits id .fallback fallbackAt ∧
          ¬armed.CancelledBefore events id .fallback fallbackAt ∧
          ¬armed.LeftBefore events id fallbackAt) ∧
      (last.outcome? id = some (.error .returnTimeout) ↔ warnings id did = [fallbackAt]) ∧
      (∀ outcome, last.outcome? id = some outcome → warnings id did = [] → outcome = .ok ()) ∧
      (¬last.Awaits id .fallback fallbackAt → (last.outcome? id).isSome) ∧
      (∀ outcome more, last.outcome? id = some outcome →
        (last.run more).1.outcome? id = some outcome) ∧
      (∀ more other, last.Timely more → other ≠ id →
        (last.run (.cancel id :: more)).1.attempts[other]? = (last.run more).1.attempts[other]? ∧
          own other (last.run (.cancel id :: more)).2 = own other (last.run more).2) := by
  intro id form submitAt fallbackAt armed last did
  have found : armed.attempts[id]? = some (Attempt.arm assertion settings s.now) :=
    List.getElem?_concat_length
  obtain ⟨attempt, course⟩ := course_run found rfl rfl (Nat.le_add_right ..) (Nat.le_add_right ..)
    events
  obtain ⟨found', -, submitted, failing, submits, warns⟩ := course
  have submitting : last.Awaits id .submit submitAt ↔
      last.now < submitAt ∨ last.now = submitAt ∧ attempt.submission = .scheduled := by
    have awaits := awaits_submit found'
    rwa [submitted] at awaits
  have waiting : last.Awaits id .fallback fallbackAt ↔
      last.now < fallbackAt ∨ last.now = fallbackAt ∧ attempt.fallback = .armed := by
    have awaits := awaits_fallback found'
    rwa [failing] at awaits
  refine ⟨submits.submitted_or, ?_, ?_, ?_, ?_, ?_, ?_,
    fun outcome more ended => outcome?_run ended more,
    fun more other timely ne => cancel_spares found' timely ne⟩
  · rw [submitting]
    exact submits.submitted_iff
  · exact warns.warned_or.imp (·.1) (·.1)
  · rw [waiting]
    exact warns.warned_iff
  · rw [outcome?_eq found', outcome?_fired]
    obtain ⟨warned, fired⟩ | ⟨silent, quiet⟩ := warns.warned_or
    · exact ⟨fun _ => warned, fun _ => fired⟩
    · simp [did, silent, quiet]
  · intro outcome ended silent
    rw [outcome?_eq found'] at ended
    obtain ⟨warned, -⟩ | ⟨-, quiet⟩ := warns.warned_or
    · simp [did, warned] at silent
    · exact outcome?_not_fired ended quiet
  · rw [waiting, outcome?_eq found', outcome?_isSome]
    -- a fallback that is armed still waits for its time
    intro passed still
    refine passed ?_
    rw [still] at warns
    exact (Nat.lt_or_eq_of_le warns.early).imp_right fun now => ⟨now, still⟩

end DisclosureRelay.Return.Schedule
