import DisclosureRelay.Proofs.Return.Inversion
import Mathlib.Data.List.Induction

/-!
# The course of an attempt

`Course` ties an attempt to what happened to it: `Submits` says whether its form was submitted, and
`Warns` whether the page was told that returning failed, each by whether the time for it has come and
what came before. `course_run` shows that an attempt keeps its course from when it is armed on,
whatever other attempts there are.
-/

namespace DisclosureRelay.Return

/-- How far the submission of a form at a time has come: its stage, and what was submitted. -/
inductive Submits (form : Form) (time now : Nat) (cancelled : Prop) :
    Submission → List (Nat × Form) → Prop where
  | scheduled : now ≤ time → ¬cancelled → Submits form time now cancelled .scheduled []
  | started {stage} :
    stage ≠ .scheduled → time ≤ now → ¬cancelled →
    Submits form time now cancelled stage [(time, form)]
  | dropped : cancelled → Submits form time now cancelled .dropped []

/-- How far the fallback at a time has come: its stage, and when the page was told. -/
inductive Warns (time now : Nat) (cancelled left : Prop) : Fallback → List Nat → Prop where
  | armed : now ≤ time → ¬cancelled → ¬left → Warns time now cancelled left .armed []
  | fired : time ≤ now → ¬cancelled → ¬left → Warns time now cancelled left .fired [time]
  | disarmed : left → Warns time now cancelled left .disarmed []
  | dropped : cancelled → Warns time now cancelled left .dropped []

namespace Submits

variable {form : Form} {time now later : Nat} {cancelled : Prop} {stage : Submission}
  {submitted : List (Nat × Form)}

/-- Time passes, but not over a submission that is still to come. -/
lemma pass (submits : Submits form time now cancelled stage submitted) (forward : now ≤ later)
    (bounded : stage = .scheduled → later ≤ time) :
    Submits form time later cancelled stage submitted := by
  cases submits with
  | scheduled _ none => exact .scheduled (bounded rfl) none
  | started begun late none => exact .started begun (Nat.le_trans late forward) none
  | dropped before => exact .dropped before

lemma early (submits : Submits form time now cancelled .scheduled submitted) : now ≤ time := by
  cases submits with
  | scheduled early => exact early
  | started begun => exact absurd rfl begun

/-- The form is submitted at its time. -/
lemma begins (submits : Submits form time now cancelled .scheduled submitted) (due : time = now) :
    Submits form time now cancelled .running (submitted ++ [(now, form)]) := by
  subst due
  cases submits with
  | scheduled _ none => exact .started nofun (Nat.le_refl _) none
  | started begun => exact absurd rfl begun

lemma ends (submits : Submits form time now cancelled .running submitted) (stage : Submission)
    (begun : stage ≠ .scheduled) : Submits form time now cancelled stage submitted := by
  cases submits with
  | started _ late none => exact .started begun late none

/-- A cancel drops the submission; before its time that is a cancel before it. -/
lemma cancels {attempt : Attempt}
    (submits : Submits form time now cancelled attempt.submission submitted) :
    Submits form time now
      (cancelled ∨ now < time ∨ now = time ∧ attempt.submission = .scheduled)
      (attempt.step .cancel).1.submission submitted := by
  simp only [Attempt.step]
  generalize attempt.submission = stage at submits ⊢
  cases submits with
  | scheduled early => exact .dropped (.inr (by simpa using Nat.lt_or_eq_of_le early))
  | started begun late none =>
    -- the cancel came too late, so that none before the time has come still
    have before : ¬(cancelled ∨ now < time ∨ now = time ∧ stage = .scheduled) := by
      simp [none, late, begun]
    refine .started ?_ late before
    cases stage <;> simp_all
  | dropped before => exact .dropped (.inl before)

/-- A form is submitted once its time has come, unless the attempt was cancelled before. -/
lemma submitted_iff (submits : Submits form time now cancelled stage submitted) :
    submitted = [(time, form)] ↔
      ¬(now < time ∨ now = time ∧ stage = .scheduled) ∧ ¬cancelled := by
  cases submits with
  | scheduled early none =>
    have waits : now < time ∨ now = time := Nat.lt_or_eq_of_le early
    simp [waits]
  | started begun late none => simp [begun, late, none]
  | dropped before => simp [before]

lemma submitted_or (submits : Submits form time now cancelled stage submitted) :
    submitted = [(time, form)] ∨ submitted = [] := by
  cases submits with
  | scheduled | dropped => exact .inr rfl
  | started => exact .inl rfl

end Submits

namespace Warns

variable {time now later : Nat} {cancelled left : Prop} {stage : Fallback} {warned : List Nat}

lemma pass (warns : Warns time now cancelled left stage warned) (forward : now ≤ later)
    (bounded : stage = .armed → later ≤ time) : Warns time later cancelled left stage warned := by
  cases warns with
  | armed _ none stays => exact .armed (bounded rfl) none stays
  | fired late none stays => exact .fired (Nat.le_trans late forward) none stays
  | disarmed before => exact .disarmed before
  | dropped before => exact .dropped before

/-- The page is told at the time of the fallback. -/
lemma fires (warns : Warns time now cancelled left .armed warned) (due : time = now) :
    Warns time now cancelled left .fired (warned ++ [now]) := by
  subst due
  cases warns with
  | armed _ none stays => exact .fired (Nat.le_refl _) none stays

/-- A submission that took the user away disarms a fallback that is still to come. -/
lemma leaves (warns : Warns time now cancelled left stage warned) :
    Warns time now cancelled (left ∨ now < time ∨ now = time ∧ stage = .armed)
      (if stage = .armed then .disarmed else stage) warned := by
  cases warns with
  | armed early => exact .disarmed (.inr (by simpa using Nat.lt_or_eq_of_le early))
  | fired late none stays => exact .fired late none (by simp [stays, late])
  | disarmed before => exact .disarmed (.inl before)
  | dropped before => exact .dropped before

/-- A cancel drops a fallback that is still to come. -/
lemma cancels (warns : Warns time now cancelled left stage warned) :
    Warns time now (cancelled ∨ now < time ∨ now = time ∧ stage = .armed) left
      (if stage = .armed then .dropped else stage) warned := by
  cases warns with
  | armed early => exact .dropped (.inr (by simpa using Nat.lt_or_eq_of_le early))
  | fired late none stays => exact .fired late (by simp [none, late]) stays
  | disarmed before => exact .disarmed before
  | dropped before => exact .dropped (.inl before)

/-- The page is told once the time has come, unless the attempt was cancelled or took the user away
before. -/
lemma warned_iff (warns : Warns time now cancelled left stage warned) :
    warned = [time] ↔ ¬(now < time ∨ now = time ∧ stage = .armed) ∧ ¬cancelled ∧ ¬left := by
  cases warns with
  | armed early none stays =>
    have waits : now < time ∨ now = time := Nat.lt_or_eq_of_le early
    simp [waits]
  | fired late none stays => simp [late, none, stays]
  | disarmed before => simp [before]
  | dropped before => simp [before]

/-- The page is told at the time of the fallback or not at all, and told is what fired. -/
lemma warned_or (warns : Warns time now cancelled left stage warned) :
    warned = [time] ∧ stage = .fired ∨ warned = [] ∧ stage ≠ .fired := by
  cases warns with
  | fired => exact .inl ⟨rfl, rfl⟩
  | armed | disarmed | dropped => exact .inr ⟨rfl, nofun⟩

lemma early (warns : Warns time now cancelled left .armed warned) : now ≤ time := by
  cases warns with
  | armed early => exact early

lemma late (warns : Warns time now cancelled left .fired warned) : time ≤ now := by
  cases warns with
  | fired late => exact late

end Warns

namespace Schedule

variable {s : Schedule} {id : AttemptId} {attempt : Attempt} {effects : List Attempt.Effect}

lemma awaits_submit (found : s.attempts[id]? = some attempt) :
    s.Awaits id .submit attempt.submitAt ↔
      s.now < attempt.submitAt ∨ s.now = attempt.submitAt ∧ attempt.submission = .scheduled := by
  simp [Awaits, dueAt?_eq found, Attempt.dueAt?]

lemma awaits_fallback (found : s.attempts[id]? = some attempt) :
    s.Awaits id .fallback attempt.fallbackAt ↔
      s.now < attempt.fallbackAt ∨ s.now = attempt.fallbackAt ∧ attempt.fallback = .armed := by
  simp [Awaits, dueAt?_eq found, Attempt.dueAt?]

lemma submitting_iff (found : s.attempts[id]? = some attempt) :
    s.Submitting id ↔ attempt.submission = .running := by
  simp [Submitting, found]

lemma submissions_of_own {did : List Effect} {time : Nat}
    (own' : own id did = effects.map (time, ·)) :
    submissions id did = (effects.filterMap Attempt.Effect.form?).map (time, ·) := by
  rw [submissions, own', List.filterMap_map, List.map_filterMap]
  rfl

lemma warnings_of_own {did : List Effect} {time : Nat} (own' : own id did = effects.map (time, ·)) :
    warnings id did = (effects.filter (·.isWarning)).map fun _ => time := by
  rw [warnings, own', List.filterMap_map]
  clear own'
  induction effects with
  | nil => rfl
  | cons effect effects ih => cases effect <;> simp_all [Function.comp_def]

/-- The state and the effects after one more event. -/
lemma run_concat (s : Schedule) (events : List Event) (event : Event) :
    s.run (events ++ [event]) =
      (((s.run events).1.step event).1, (s.run events).2 ++ ((s.run events).1.step event).2) :=
  Machine.run_concat ..

lemma cancelledBefore_concat (s : Schedule) (events : List Event) (event : Event)
    (id : AttemptId) (timer : Timer) (time : Nat) :
    s.CancelledBefore (events ++ [event]) id timer time ↔
      s.CancelledBefore events id timer time ∨
        event = .cancel id ∧ (s.run events).1.Awaits id timer time :=
  Machine.meets_concat ..

lemma leftBefore_concat (s : Schedule) (events : List Event) (event : Event) (id : AttemptId)
    (time : Nat) :
    s.LeftBefore (events ++ [event]) id time ↔
      s.LeftBefore events id time ∨ event = .submitted id true ∧
        (s.run events).1.Submitting id ∧ (s.run events).1.Awaits id .fallback time :=
  Machine.meets_concat ..

end Schedule

section Moves

variable {s : Schedule} {id : AttemptId} {attempt next : Attempt} {event : Schedule.Event}
  {now : Nat} {effects : List Attempt.Effect}

/-- A move keeps how far the submission has come. -/
lemma Submits.move {cancelled : Prop} {submitted : List (Nat × Form)}
    (submits : Submits attempt.form attempt.submitAt s.now cancelled attempt.submission submitted)
    (move : s.Move id attempt event now next effects) :
    Submits attempt.form attempt.submitAt now
      (cancelled ∨ event = .cancel id ∧
        (s.now < attempt.submitAt ∨ s.now = attempt.submitAt ∧ attempt.submission = .scheduled))
      next.submission (submitted ++ (effects.filterMap Attempt.Effect.form?).map (s.now, ·)) := by
  cases move with
  | waits cancel _ forward bounded =>
    have kept := submits.pass forward fun scheduled => by
      rw [scheduled] at submits
      exact bounded .submit _ (by simp [Attempt.dueAt?, scheduled]) submits.early
    simpa [cancel] using kept
  | submits scheduled due =>
    rw [scheduled] at submits
    simpa using submits.begins due
  | leaves running =>
    rw [running] at submits
    simpa using submits.ends .left (by simp)
  | fails running =>
    rw [running] at submits
    simpa using submits.ends .failed (by simp)
  | cancels => simpa using submits.cancels
  | warns => simpa [List.filterMap_cons] using submits
  | late => simpa using submits

/-- A move keeps how far the fallback has come. -/
lemma Warns.move {cancelled left : Prop} {warned : List Nat}
    (warns : Warns attempt.fallbackAt s.now cancelled left attempt.fallback warned)
    (move : s.Move id attempt event now next effects) :
    Warns attempt.fallbackAt now
      (cancelled ∨ event = .cancel id ∧
        (s.now < attempt.fallbackAt ∨ s.now = attempt.fallbackAt ∧ attempt.fallback = .armed))
      (left ∨ event = .submitted id true ∧ attempt.submission = .running ∧
        (s.now < attempt.fallbackAt ∨ s.now = attempt.fallbackAt ∧ attempt.fallback = .armed))
      next.fallback (warned ++ (effects.filter (·.isWarning)).map fun _ => s.now) := by
  cases move with
  | waits cancel ends forward bounded =>
    have kept := warns.pass forward fun armed => by
      rw [armed] at warns
      exact bounded .fallback _ (by simp [Attempt.dueAt?, armed]) warns.early
    simpa [cancel, ends] using kept
  | warns armed due =>
    rw [armed] at warns
    simpa using warns.fires due
  | leaves running => simpa [running] using warns.leaves
  | late idle => simpa [idle] using warns
  | cancels => simpa [Attempt.step] using warns.cancels
  | submits | fails => simpa using warns

end Moves

namespace Schedule

variable {id : AttemptId} {attempt : Attempt}

/-- An attempt after a row of events, by what happened to it. -/
structure Course (start : Schedule) (events : List Event) (id : AttemptId) (first attempt : Attempt) :
    Prop where
  found : (start.run events).1.attempts[id]? = some attempt
  form : attempt.form = first.form
  submitAt : attempt.submitAt = first.submitAt
  fallbackAt : attempt.fallbackAt = first.fallbackAt
  submits :
    Submits first.form first.submitAt (start.run events).1.now
      (start.CancelledBefore events id .submit first.submitAt) attempt.submission
      (submissions id (start.run events).2)
  warns :
    Warns first.fallbackAt (start.run events).1.now
      (start.CancelledBefore events id .fallback first.fallbackAt)
      (start.LeftBefore events id first.fallbackAt) attempt.fallback
      (warnings id (start.run events).2)

/-- An attempt keeps its course on one more event. -/
lemma Course.concat {start : Schedule} {events : List Event} {first : Attempt}
    (course : start.Course events id first attempt) (event : Event) :
    ∃ next, start.Course (events ++ [event]) id first next := by
  obtain ⟨found, form, submitAt, fallbackAt, submits, warns⟩ := course
  obtain ⟨next, effects, found', did, move⟩ := step_move found event
  obtain ⟨form', submitAt', fallbackAt'⟩ := move.fixed
  refine ⟨next, ?_, form'.trans form, submitAt'.trans submitAt, fallbackAt'.trans fallbackAt, ?_, ?_⟩
  · rwa [run_concat]
  · rw [← submitAt, ← form] at submits ⊢
    rw [run_concat, cancelledBefore_concat, awaits_submit found, submissions_append,
      submissions_of_own did]
    exact submits.move move
  · rw [← fallbackAt] at warns ⊢
    rw [run_concat, cancelledBefore_concat, leftBefore_concat, submitting_iff found,
      awaits_fallback found, warnings_append, warnings_of_own did]
    exact warns.move move

/-- From when it is armed on, an attempt keeps its course. -/
theorem course_run {start : Schedule} {first : Attempt} (found : start.attempts[id]? = some first)
    (scheduled : first.submission = .scheduled) (armed : first.fallback = .armed)
    (submitAt : start.now ≤ first.submitAt) (fallbackAt : start.now ≤ first.fallbackAt)
    (events : List Event) : ∃ attempt, start.Course events id first attempt := by
  induction events using List.reverseRecOn with
  | nil =>
    refine ⟨first, found, rfl, rfl, rfl, ?_, ?_⟩
    · rw [scheduled]
      exact .scheduled submitAt (Machine.meets_nil _ _ _)
    · rw [armed]
      exact .armed fallbackAt (Machine.meets_nil _ _ _) (Machine.meets_nil _ _ _)
  | append_singleton events event ih =>
    obtain ⟨attempt, course⟩ := ih
    exact course.concat event

lemma Awaits.now_le {s : Schedule} {timer : Timer} {time : Nat} (awaits : s.Awaits id timer time) :
    s.now ≤ time :=
  awaits.elim Nat.le_of_lt fun now => Nat.le_of_eq now.1

/-- What is cancelled before a time is cancelled before all later ones. -/
lemma CancelledBefore.of_lt {start : Schedule} {events : List Event} {timer other : Timer}
    {time later : Nat} (cancelled : start.CancelledBefore events id timer time)
    (lt : time < later) : start.CancelledBefore events id other later := by
  obtain ⟨before, event, after, row, cancel, awaits⟩ := cancelled
  exact ⟨before, event, after, row, cancel, .inl (Nat.lt_of_le_of_lt awaits.now_le lt)⟩

/-- The form was submitted before the page is told that returning failed, if its time is before that
of the fallback. -/
lemma Course.submitted_of_warned {start : Schedule} {events : List Event} {first : Attempt}
    (course : start.Course events id first attempt) (ordered : first.submitAt < first.fallbackAt)
    (warned : warnings id (start.run events).2 ≠ []) :
    submissions id (start.run events).2 = [(first.submitAt, first.form)] := by
  obtain ⟨-, -, -, -, submits, warns⟩ := course
  obtain ⟨told, -⟩ | ⟨silent, -⟩ := warns.warned_or
  · obtain ⟨due, kept, -⟩ := warns.warned_iff.1 told
    -- no cancel came before the submission, as it would have cancelled the fallback, too
    exact submits.submitted_iff.2 ⟨by omega, fun cancelled => kept (cancelled.of_lt ordered)⟩
  · exact absurd silent warned

end Schedule

end DisclosureRelay.Return
