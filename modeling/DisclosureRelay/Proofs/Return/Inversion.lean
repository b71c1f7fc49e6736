import DisclosureRelay.Return.History
import Mathlib.Tactic.Lemma

/-!
# What an event can do to an attempt

`Move` lists what can happen to one of the attempts under the clock, each with what has to hold for
it, the time at which it leaves the clock, what becomes of the attempt and what the attempt does.
`step_move` says that every event is one of these moves for every attempt, so that what all events
keep of an attempt is shown by cases on `Move`.
-/

namespace DisclosureRelay.Return.Schedule

/-- What an event can do to an attempt. -/
inductive Move (s : Schedule) (id : AttemptId) (attempt : Attempt) :
    Event → Nat → Attempt → List Attempt.Effect → Prop where
  /-- The event is not for this attempt; time passes over no timer of it that still runs. -/
  | waits {event now} :
    event ≠ .cancel id → (∀ ok, event ≠ .submitted id ok) → s.now ≤ now →
    (∀ timer time, attempt.dueAt? timer = some time → s.now ≤ time → now ≤ time) →
    Move s id attempt event now attempt []
  /-- The form is submitted. -/
  | submits :
    attempt.submission = .scheduled → attempt.submitAt = s.now →
    Move s id attempt (.due id .submit) s.now { attempt with submission := .running }
      [.submit attempt.form]
  /-- The return counts as failed. -/
  | warns :
    attempt.fallback = .armed → attempt.fallbackAt = s.now →
    Move s id attempt (.due id .fallback) s.now { attempt with fallback := .fired }
      [.returningFailed]
  /-- The submission takes the user away. -/
  | leaves :
    attempt.submission = .running →
    Move s id attempt (.submitted id true) s.now
      { attempt with
        submission := .left
        fallback := if attempt.fallback = .armed then .disarmed else attempt.fallback } []
  /-- The submission fails. -/
  | fails :
    attempt.submission = .running →
    Move s id attempt (.submitted id false) s.now { attempt with submission := .failed } []
  /-- No submission is under way that could end. -/
  | late {ok} :
    attempt.submission ≠ .running → Move s id attempt (.submitted id ok) s.now attempt []
  /-- What is still to come of the attempt is dropped. -/
  | cancels : Move s id attempt (.cancel id) s.now (attempt.step .cancel).1 []

variable {s : Schedule} {id : AttemptId} {attempt next : Attempt} {event : Event} {now : Nat}
  {effects : List Attempt.Effect}

/-- Nothing happens to the attempt, and no time passes. -/
lemma Move.idle (cancel : event ≠ .cancel id) (ends : ∀ ok, event ≠ .submitted id ok) :
    s.Move id attempt event s.now attempt [] :=
  .waits cancel ends (Nat.le_refl _) fun _ _ _ early => early

lemma dueAt?_eq (found : s.attempts[id]? = some attempt) (timer : Timer) :
    s.dueAt? id timer = attempt.dueAt? timer := by
  simp [dueAt?, found]

@[simp] lemma act_now (s : Schedule) (id : AttemptId) (event : Attempt.Event) :
    (s.act id event).1.now = s.now := by
  unfold act
  split <;> rfl

@[simp] lemma act_length (s : Schedule) (id : AttemptId) (event : Attempt.Event) :
    (s.act id event).1.attempts.length = s.attempts.length := by
  unfold act
  split <;> simp

/-- What an attempt does on an event of its own. -/
lemma act_self (found : s.attempts[id]? = some attempt) (event : Attempt.Event) :
    (s.act id event).1.attempts[id]? = some (attempt.step event).1 ∧
      own id (s.act id event).2 = (attempt.step event).2.map (s.now, ·) := by
  obtain ⟨inside, here⟩ := List.getElem?_eq_some_iff.1 found
  simp [act, own_map, inside, here]

/-- What happens to another attempt is nothing to this one. -/
lemma act_other {other : AttemptId} (ne : other ≠ id) (event : Attempt.Event) :
    (s.act other event).1.attempts[id]? = s.attempts[id]? ∧ own id (s.act other event).2 = [] := by
  unfold act
  split
  · exact ⟨rfl, rfl⟩
  · exact ⟨List.getElem?_set_ne ne, by simp [own_map, ne]⟩

/-- The timers of an attempt are among those of all. -/
lemma mem_timers (found : s.attempts[id]? = some attempt) {timer : Timer} {time : Nat}
    (due : attempt.dueAt? timer = some time) : time ∈ s.timers := by
  refine List.mem_flatMap.2 ⟨attempt, List.mem_of_getElem? found, ?_⟩
  cases timer <;> simp [due]

/-- An event for another attempt is a move. -/
lemma other_move (found : s.attempts[id]? = some attempt) {other : AttemptId} (ne : other ≠ id)
    (own' : Attempt.Event) (cancel : event ≠ .cancel id) (ends : ∀ ok, event ≠ .submitted id ok) :
    ∃ next effects, (s.act other own').1.attempts[id]? = some next ∧
      own id (s.act other own').2 = effects.map (s.now, ·) ∧
      s.Move id attempt event s.now next effects := by
  obtain ⟨same, nothing⟩ := s.act_other ne own'
  exact ⟨attempt, [], same.trans found, nothing, .idle cancel ends⟩

/-- A timer that is served is a move. -/
lemma due_move {timer : Timer} (due : attempt.dueAt? timer = some s.now) :
    s.Move id attempt (.due id timer) s.now (attempt.step (.due timer)).1
      (attempt.step (.due timer)).2 := by
  cases timer with
  | submit =>
    obtain ⟨scheduled, time⟩ : attempt.submission = .scheduled ∧ attempt.submitAt = s.now := by
      simpa [Attempt.dueAt?] using due
    simpa [Attempt.step, scheduled] using Move.submits scheduled time
  | fallback =>
    obtain ⟨armed, time⟩ : attempt.fallback = .armed ∧ attempt.fallbackAt = s.now := by
      simpa [Attempt.dueAt?] using due
    simpa [Attempt.step, armed] using Move.warns armed time

/-- The end of a submission is a move. -/
lemma submitted_move (s : Schedule) (id : AttemptId) (attempt : Attempt) (ok : Bool) :
    s.Move id attempt (.submitted id ok) s.now (attempt.step (.submitted ok)).1
      (attempt.step (.submitted ok)).2 := by
  by_cases running : attempt.submission = .running
  · cases ok with
    | true => simpa [Attempt.step, running] using Move.leaves running
    | false => simpa [Attempt.step, running] using Move.fails running
  · have nothing : attempt.step (.submitted ok) = (attempt, []) := by
      cases ok <;> simp [Attempt.step]
    rw [nothing]
    exact .late running

/-- Every event is a move of every attempt. -/
theorem step_move (found : s.attempts[id]? = some attempt) (event : Event) :
    ∃ next effects, (s.step event).1.attempts[id]? = some next ∧
      own id (s.step event).2 = effects.map (s.now, ·) ∧
      s.Move id attempt event (s.step event).1.now next effects := by
  cases event with
  | pass milliseconds =>
    unfold step
    dsimp only
    split
    · next free =>
      refine ⟨attempt, [], found, rfl, .waits nofun nofun (Nat.le_add_right ..) ?_⟩
      intro timer time due _
      simpa using List.all_eq_true.1 free time (mem_timers found due)
    · exact ⟨attempt, [], found, rfl, .idle nofun nofun⟩
  | arm assertion settings =>
    have inside := (List.getElem?_eq_some_iff.1 found).1
    refine ⟨attempt, [], ?_, rfl, .idle nofun nofun⟩
    exact (List.getElem?_append_left inside).trans found
  | due other timer =>
    rw [step_due]
    split
    · next due =>
      rw [act_now]
      by_cases same : other = id
      · subst same
        rw [dueAt?_eq found] at due
        obtain ⟨attempts, did⟩ := act_self found (.due timer)
        exact ⟨_, _, attempts, did, due_move due⟩
      · exact other_move found same _ nofun nofun
    · exact ⟨attempt, [], found, rfl, .idle nofun nofun⟩
  | submitted other ok =>
    simp only [step, act_now]
    by_cases same : other = id
    · subst same
      obtain ⟨attempts, did⟩ := act_self found (.submitted ok)
      exact ⟨_, _, attempts, did, submitted_move ..⟩
    · exact other_move found same _ nofun (by simp [same])
  | cancel other =>
    simp only [step, act_now]
    by_cases same : other = id
    · subst same
      obtain ⟨attempts, did⟩ := act_self found .cancel
      exact ⟨_, _, attempts, did, .cancels⟩
    · exact other_move found same _ (by simp [same]) nofun

/-- No move changes the form or the times of an attempt. -/
lemma Move.fixed (move : s.Move id attempt event now next effects) :
    next.form = attempt.form ∧ next.submitAt = attempt.submitAt ∧
      next.fallbackAt = attempt.fallbackAt := by
  cases move <;> exact ⟨rfl, rfl, rfl⟩

end DisclosureRelay.Return.Schedule
