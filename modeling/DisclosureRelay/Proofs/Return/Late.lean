import DisclosureRelay.Proofs.Return.Timers

/-!
# Submissions that end late

The fallback of an attempt does not stop its submission: `leaves_after_warning` says when an attempt
of which the page was told that returning failed takes the user away after all.
-/

namespace DisclosureRelay

/-- With safe settings the time of a submission comes before that of the fallback. -/
lemma Settings.submit_lt_fallback {settings : Settings} (safe : settings.fault? = none) :
    settings.submitDelayMs < settings.fallbackTimeoutMs := by
  unfold fault? at safe
  grind

namespace Return.Schedule

variable {s : Schedule} {id : AttemptId} {attempt next : Attempt} {event : Event} {now : Nat}
  {effects : List Attempt.Effect}

/-- A submission that was begun is under way until an event ends it. -/
lemma Move.running_iff (move : s.Move id attempt event now next effects)
    (begun : attempt.submission ≠ .scheduled) :
    next.submission ≠ .scheduled ∧
      (next.submission = .running ↔ attempt.submission = .running ∧ event.ends id = false) := by
  cases move with
  | @waits event _ cancel ends =>
    have goesOn : event.ends id = false := by
      cases event <;> simp_all [Event.ends]
    simp [begun, goesOn]
  | submits scheduled => exact absurd scheduled begun
  | warns => simp [begun, Event.ends]
  | leaves | fails => simp [Event.ends]
  | late idle => simp [begun, idle]
  | cancels =>
    simp only [Attempt.step, Event.ends]
    cases stage : attempt.submission <;> simp_all

/-- A submission that was begun takes the user away if it is under way and the event that ends it is
its success. -/
theorem leaves_iff (found : s.attempts[id]? = some attempt)
    (begun : attempt.submission ≠ .scheduled) (events : List Event) :
    s.Leaves events id ↔
      s.Submitting id ∧ events.find? (Event.ends id) = some (.submitted id true) := by
  induction events generalizing s attempt with
  | nil => simp [Leaves]
  | cons event events ih =>
    obtain ⟨next, effects, found', -, move⟩ := step_move found event
    obtain ⟨begun', running⟩ := move.running_iff begun
    have rest := ih found' begun'
    rw [submitting_iff found', running] at rest
    rw [Leaves, Machine.meets_cons, ← Leaves, rest, submitting_iff found, List.find?_cons]
    cases ends : event.ends id with
    | true => simp [and_comm]
    | false =>
      have other : event ≠ .submitted id true := by
        rintro rfl
        simp [Event.ends] at ends
      simp [other]

/-- An attempt of which the page was told that returning failed takes the user away after all if its
submission is under way and ends well before it is cancelled. -/
theorem leaves_after_warning (s : Schedule) (assertion : Assertion) (settings : Settings)
    (safe : settings.fault? = none) (events more : List Event)
    (warned : warnings s.attempts.length
      ((s.step (.arm assertion settings)).1.run events).2 ≠ []) :
    let id := s.attempts.length
    let last := ((s.step (.arm assertion settings)).1.run events).1
    (last.run more).1.outcome? id = some (.error .returnTimeout) ∧
      (last.Leaves more id ↔
        last.Submitting id ∧ more.find? (Event.ends id) = some (.submitted id true)) := by
  intro id last
  have found : (s.step (.arm assertion settings)).1.attempts[id]? =
      some (Attempt.arm assertion settings s.now) :=
    List.getElem?_concat_length
  obtain ⟨attempt, course⟩ := course_run found rfl rfl (Nat.le_add_right ..) (Nat.le_add_right ..)
    events
  obtain ⟨found', -, -, -, submits, warns⟩ := course
  obtain ⟨-, fired⟩ | ⟨silent, -⟩ := warns.warned_or
  · have timeout : last.outcome? id = some (.error .returnTimeout) := by
      rw [outcome?_eq found', outcome?_fired]
      exact fired
    refine ⟨outcome?_run timeout more, leaves_iff found' ?_ more⟩
    -- the submission was begun, because its time is before that of the fallback
    intro scheduled
    rw [scheduled] at submits
    rw [fired] at warns
    have later : s.now + settings.fallbackTimeoutMs ≤ s.now + settings.submitDelayMs :=
      Nat.le_trans warns.late submits.early
    have before := Settings.submit_lt_fallback safe
    omega
  · exact absurd silent warned

/-- A submission that goes on for nine seconds takes the user away a second after the page was told
that returning failed. -/
theorem leaves_after_warning_of_slow_submission :
    let settings : Settings := {}
    let armed := (({} : Schedule).step (.arm ⟨"http://sp/acs", "saml", none⟩ settings)).1
    let events : List Event := [.pass 2000, .due 0 .submit, .pass 8000, .due 0 .fallback]
    let more : List Event := [.pass 1000, .submitted 0 true]
    let last := (armed.run events).1
    settings.fault? = none ∧ warnings 0 (armed.run events).2 ≠ [] ∧ last.Leaves more 0 ∧
      (last.run more).1.outcome? 0 = some (.error .returnTimeout) := by
  intro settings armed events more last
  have safe : settings.fault? = none := by decide
  have warned : warnings 0 (armed.run events).2 ≠ [] := by decide
  have submitting : last.Submitting 0 := by decide
  obtain ⟨timeout, leaves⟩ :=
    leaves_after_warning {} ⟨"http://sp/acs", "saml", none⟩ settings safe events more warned
  exact ⟨safe, warned, leaves.2 ⟨submitting, rfl⟩, timeout⟩

/-- A fallback that fired does not keep the submission from taking the user away. -/
theorem warning_does_not_exclude_leaving :
    ¬∀ (s : Schedule) (assertion : Assertion) (settings : Settings) (events more : List Event),
      settings.fault? = none →
      warnings s.attempts.length ((s.step (.arm assertion settings)).1.run events).2 ≠ [] →
      ¬((s.step (.arm assertion settings)).1.run events).1.Leaves more s.attempts.length := by
  intro exclusive
  refine exclusive {} ⟨"http://sp/acs", "saml", none⟩ {}
    [.pass 2000, .due 0 .submit, .pass 8000, .due 0 .fallback] [.pass 1000, .submitted 0 true]
    (by decide) (by decide) ?_
  exact ⟨[.pass 1000], .submitted 0 true, [], rfl, rfl, rfl⟩

end Return.Schedule

end DisclosureRelay
