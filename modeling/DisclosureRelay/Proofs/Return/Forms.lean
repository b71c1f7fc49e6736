import DisclosureRelay.Proofs.Return.Course

/-!
# The forms of attempts

An attempt keeps the form that it was armed with and submits it once at most. `Faithful` ties the
attempts under the clock to what was submitted, `Faithful.step` shows that every event keeps this,
and `faithful_run` that it holds after every row of events.
-/

namespace DisclosureRelay.Return.Schedule

variable {s : Schedule} {id : AttemptId} {attempt : Attempt}

/-- An attempt submitted its own form once at most, and nothing before it was scheduled to. -/
inductive Sent (attempt : Attempt) : List (Nat × Form) → Prop where
  | none : Sent attempt []
  | once {time} : attempt.submission ≠ .scheduled → Sent attempt [(time, attempt.form)]

/-- What was submitted is what the attempts that there are submitted. -/
structure Faithful (s : Schedule) (effects : List Effect) : Prop where
  missing : ∀ id, s.attempts[id]? = none → own id effects = []
  sent : ∀ id attempt, s.attempts[id]? = some attempt → Sent attempt (submissions id effects)

/-- An attempt submitted nothing, or its form. -/
lemma Sent.nothing_or_form {submitted : List (Nat × Form)} (sent : Sent attempt submitted) :
    submitted = [] ∨ ∃ time, submitted = [(time, attempt.form)] := by
  cases sent with
  | none => exact .inl rfl
  | once => exact .inr ⟨_, rfl⟩

/-- An attempt that did not submit its form yet submitted nothing. -/
lemma Sent.of_scheduled {submitted : List (Nat × Form)} (sent : Sent attempt submitted)
    (scheduled : attempt.submission = .scheduled) : submitted = [] := by
  cases sent with
  | none => rfl
  | once begun => exact absurd scheduled begun

/-- An attempt that keeps its form, is not scheduled again and submits nothing more. -/
lemma Sent.keep {next : Attempt} {submitted : List (Nat × Form)} (sent : Sent attempt submitted)
    (form : next.form = attempt.form)
    (begun : attempt.submission ≠ .scheduled → next.submission ≠ .scheduled) :
    Sent next (submitted ++ []) := by
  rw [List.append_nil]
  cases sent with
  | none => exact .none
  | once before =>
    rw [← form]
    exact .once (begun before)

/-- A move keeps what an attempt submitted, or adds its form. -/
lemma Sent.move {next : Attempt} {event : Event} {now : Nat} {effects : List Attempt.Effect}
    {submitted : List (Nat × Form)} (sent : Sent attempt submitted)
    (move : s.Move id attempt event now next effects) :
    Sent next (submitted ++ (effects.filterMap Attempt.Effect.form?).map (s.now, ·)) := by
  cases move with
  | submits scheduled =>
    rw [sent.of_scheduled scheduled]
    exact .once nofun
  | waits | late | warns => exact sent.keep rfl fun begun => begun
  | leaves | fails => exact sent.keep rfl fun _ => nofun
  | cancels =>
    refine sent.keep rfl fun begun => ?_
    simp only [Attempt.step]
    cases stage : attempt.submission <;> simp_all

/-- An attempt that is not there does nothing. -/
lemma missing_step (missing : s.attempts[id]? = none) (event : Event) :
    own id (s.step event).2 = [] := by
  have unseen (other : AttemptId) (happens : Attempt.Event) :
      own id (s.act other happens).2 = [] := by
    by_cases same : other = id
    · simp [act, same, missing, own]
    · exact (s.act_other same happens).2
  cases event with
  | pass | arm =>
    simp only [step]
    first | rfl | (split <;> rfl)
  | due other timer =>
    rw [step_due]
    split
    · exact unseen ..
    · rfl
  | submitted other ok => exact unseen ..
  | cancel other => exact unseen ..

/-- Every event keeps that what was submitted is what the attempts submitted. -/
lemma Faithful.step {effects : List Effect} (faithful : Faithful s effects) (event : Event) :
    Faithful (s.step event).1 (effects ++ (s.step event).2) where
  missing id missing := by
    have before : s.attempts[id]? = none := by
      by_contra there
      obtain ⟨attempt, found⟩ := Option.ne_none_iff_exists'.1 there
      obtain ⟨next, _, found', -⟩ := step_move found event
      simp [found'] at missing
    rw [own_append, faithful.missing id before, missing_step before event]
    rfl
  sent id next found' := by
    cases found : s.attempts[id]? with
    | none =>
      -- the event arms the attempt
      have nothing : submissions id (effects ++ (s.step event).2) = [] := by
        simp [submissions, faithful.missing id found, missing_step found event]
      rw [nothing]
      exact .none
    | some attempt =>
      obtain ⟨_, did, found'', own', move⟩ := step_move found event
      rw [found''] at found'
      cases found'
      rw [submissions_append, submissions_of_own own']
      exact (faithful.sent id attempt found).move move

/-- From the first moment on what was submitted is what the attempts submitted. -/
theorem faithful_run (events : List Event) :
    Faithful (run {} events).1 (run {} events).2 := by
  have start : Faithful {} [] := ⟨fun _ _ => rfl, fun _ _ _ => .none⟩
  exact Machine.run_induction step (fun _ _ event faithful => faithful.step event) events start

/-- An attempt stays under its number and keeps its form. -/
theorem form_run (found : s.attempts[id]? = some attempt) (events : List Event) :
    ∃ next, (s.run events).1.attempts[id]? = some next ∧ next.form = attempt.form := by
  induction events generalizing s attempt with
  | nil => exact ⟨attempt, found, rfl⟩
  | cons event events ih =>
    obtain ⟨next, _, found', -, move⟩ := step_move found event
    obtain ⟨last, found'', form⟩ := ih found'
    exact ⟨last, found'', form.trans move.fixed.1⟩

end DisclosureRelay.Return.Schedule
