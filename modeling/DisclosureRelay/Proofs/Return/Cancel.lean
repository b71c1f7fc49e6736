import DisclosureRelay.Proofs.Return.Inversion

/-!
# Cancelling one attempt among others

`Spared` relates a schedule to one in which an attempt was cancelled: the time and the other attempts
are the same, and the attempt has no timer any more. `Spared.step` shows that every event keeps this,
and `Spared.run` that the other attempts do the same on every row of events on which time passes as
it says.
-/

namespace DisclosureRelay.Return

namespace Attempt

/-- An attempt has no timer that still runs. -/
def Still (attempt : Attempt) : Prop :=
  ∀ timer, attempt.dueAt? timer = none

lemma still_iff {attempt : Attempt} :
    attempt.Still ↔ attempt.submission ≠ .scheduled ∧ attempt.fallback ≠ .armed := by
  constructor
  · intro still
    exact ⟨by simpa [dueAt?] using still .submit, by simpa [dueAt?] using still .fallback⟩
  · rintro ⟨begun, decided⟩ (_ | _) <;> simp [dueAt?, begun, decided]

/-- A cancel leaves no timer. -/
lemma still_cancel (attempt : Attempt) : (attempt.step .cancel).1.Still := by
  rw [still_iff]
  constructor
  · simp only [step]
    cases attempt.submission <;> simp
  · simp only [step]
    split <;> simp_all

/-- No event sets a timer again. -/
lemma Still.step {attempt : Attempt} (still : attempt.Still) (event : Event) :
    (attempt.step event).1.Still := by
  obtain ⟨begun, decided⟩ := still_iff.1 still
  cases event with
  | cancel => exact still_cancel attempt
  | due timer => cases timer <;> simpa [Attempt.step, begun, decided] using still
  | submitted ok => cases ok <;> simp only [Attempt.step] <;> split <;> simp_all [still_iff]

end Attempt

namespace Schedule

/-- The times of timers are those at which an attempt has one. -/
lemma mem_timers_iff {s : Schedule} {time : Nat} :
    time ∈ s.timers ↔ ∃ id timer, s.dueAt? id timer = some time := by
  constructor
  · intro mem
    obtain ⟨attempt, armed, due⟩ := List.mem_flatMap.1 mem
    obtain ⟨id, found⟩ := List.mem_iff_getElem?.1 armed
    rw [List.mem_append, Option.mem_toList, Option.mem_toList] at due
    obtain due | due := due
    · exact ⟨id, .submit, (dueAt?_eq found _).trans due⟩
    · exact ⟨id, .fallback, (dueAt?_eq found _).trans due⟩
  · rintro ⟨id, timer, due⟩
    obtain ⟨attempt, found, due⟩ := Option.bind_eq_some_iff.1 due
    exact mem_timers found due

/-- Time passes as a row says if it does with the first event and on the others. -/
lemma timely_cons {s : Schedule} {event : Event} {events : List Event} :
    s.Timely (event :: events) ↔
      (∀ milliseconds, event = .pass milliseconds →
        ∀ time ∈ s.timers, s.now + milliseconds ≤ time) ∧ (s.step event).1.Timely events := by
  unfold Timely
  rw [Machine.meets_cons]
  simp only [not_or, not_exists, not_and, Nat.not_lt]

lemma run_cons (s : Schedule) (event : Event) (events : List Event) :
    s.run (event :: events) =
      (((s.step event).1.run events).1, (s.step event).2 ++ ((s.step event).1.run events).2) := rfl

/-- Everything but one attempt is the same, and that attempt has no timer in the second schedule. -/
structure Spared (id : AttemptId) (s t : Schedule) : Prop where
  now : t.now = s.now
  length : t.attempts.length = s.attempts.length
  others : ∀ other, other ≠ id → t.attempts[other]? = s.attempts[other]?
  still : ∃ attempt, t.attempts[id]? = some attempt ∧ attempt.Still

namespace Spared

variable {id : AttemptId} {s t : Schedule}

lemma silent (spared : Spared id s t) (timer : Timer) : t.dueAt? id timer = none := by
  obtain ⟨attempt, found, still⟩ := spared.still
  rw [dueAt?_eq found, still]

lemma dueAt? (spared : Spared id s t) {other : AttemptId} (ne : other ≠ id) (timer : Timer) :
    t.dueAt? other timer = s.dueAt? other timer := by
  simp only [Schedule.dueAt?, spared.others other ne]

/-- The second schedule has no timers of its own. -/
lemma timers (spared : Spared id s t) {time : Nat} (mem : time ∈ t.timers) : time ∈ s.timers := by
  obtain ⟨other, timer, due⟩ := mem_timers_iff.1 mem
  by_cases same : other = id
  · subst same
    simp [spared.silent] at due
  · exact mem_timers_iff.2 ⟨other, timer, (spared.dueAt? same timer).symm.trans due⟩

/-- Something happens to another attempt in both schedules. -/
lemma act_other (spared : Spared id s t) {other : AttemptId} (ne : other ≠ id)
    (event : Attempt.Event) :
    Spared id (s.act other event).1 (t.act other event).1 ∧
      (t.act other event).2 = (s.act other event).2 := by
  have same := spared.others other ne
  cases found : s.attempts[other]? with
  | none =>
    have none := same.trans found
    simpa [act, found, none] using spared
  | some attempt =>
    have found' := same.trans found
    obtain ⟨silent, here, still⟩ := spared.still
    refine ⟨⟨by simp [spared.now], by simp [spared.length], ?_, ?_⟩, ?_⟩
    · intro third ne'
      by_cases both : third = other
      · rw [both, (act_self found' event).1, (act_self found event).1]
      · rw [(t.act_other (Ne.symm both) event).1, (s.act_other (Ne.symm both) event).1,
          spared.others third ne']
    · exact ⟨silent, (t.act_other ne event).1.trans here, still⟩
    · simp [act, found, found', spared.now]

/-- Something happens to the attempt itself, at least in the first schedule. -/
lemma act_self (spared : Spared id s t) (event : Attempt.Event) :
    Spared id (s.act id event).1 t ∧ Spared id (s.act id event).1 (t.act id event).1 ∧
      ∀ other, other ≠ id →
        own other (s.act id event).2 = [] ∧ own other (t.act id event).2 = [] := by
  have first : Spared id (s.act id event).1 t := by
    refine ⟨by simp [spared.now], by simp [spared.length], fun other ne => ?_, spared.still⟩
    rw [(s.act_other (Ne.symm ne) event).1, spared.others other ne]
  obtain ⟨attempt, found, still⟩ := spared.still
  refine ⟨first, ⟨by simp [spared.now], by simp [spared.length], fun other ne => ?_, ?_⟩, ?_⟩
  · rw [(t.act_other (Ne.symm ne) event).1, first.others other ne]
  · exact ⟨_, (Schedule.act_self found event).1, still.step event⟩
  · intro other ne
    exact ⟨(s.act_other (Ne.symm ne) event).2, (t.act_other (Ne.symm ne) event).2⟩

/-- Something happens to an attempt in both schedules. -/
lemma act (spared : Spared id s t) (other : AttemptId) (event : Attempt.Event) :
    Spared id (s.act other event).1 (t.act other event).1 ∧
      ∀ third, third ≠ id → own third (t.act other event).2 = own third (s.act other event).2 := by
  by_cases same : other = id
  · subst same
    obtain ⟨-, both, unseen⟩ := spared.act_self event
    exact ⟨both, fun third ne => (unseen third ne).2.trans (unseen third ne).1.symm⟩
  · obtain ⟨both, alike⟩ := spared.act_other same event
    exact ⟨both, fun _ _ => by rw [alike]⟩

/-- An attempt is armed in both schedules. -/
lemma arm (spared : Spared id s t) (assertion : Assertion) (settings : Settings) :
    Spared id (s.step (.arm assertion settings)).1 (t.step (.arm assertion settings)).1 := by
  obtain ⟨attempt, found, still⟩ := spared.still
  have inside := (List.getElem?_eq_some_iff.1 found).1
  refine ⟨spared.now, by simp [step, spared.length], fun other ne => ?_, attempt, ?_, still⟩
  · simp only [step, List.getElem?_append, spared.length, spared.now, spared.others other ne]
  · exact (List.getElem?_append_left inside).trans found

/-- Every event spares the other attempts, where time passes as the event says. -/
theorem step (spared : Spared id s t) (event : Event)
    (passes : ∀ milliseconds, event = .pass milliseconds →
      ∀ time ∈ s.timers, s.now + milliseconds ≤ time) :
    Spared id (s.step event).1 (t.step event).1 ∧
      ∀ other, other ≠ id → own other (t.step event).2 = own other (s.step event).2 := by
  cases event with
  | pass milliseconds =>
    have first : s.timers.all (s.now + milliseconds ≤ ·) = true := by
      simpa using passes milliseconds rfl
    have second : t.timers.all (t.now + milliseconds ≤ ·) = true := by
      simpa [spared.now] using fun time mem => passes milliseconds rfl time (spared.timers mem)
    simp only [Schedule.step, first, second, if_true]
    exact ⟨⟨by simp [spared.now], spared.length, spared.others, spared.still⟩, fun _ _ => trivial⟩
  | arm assertion settings => exact ⟨spared.arm assertion settings, fun _ _ => rfl⟩
  | due other timer =>
    rw [step_due, step_due]
    by_cases same : other = id
    · -- the attempt has no timer in the second schedule, and nothing of the first is seen besides
      subst same
      obtain ⟨served, -, unseen⟩ := spared.act_self (.due timer)
      have idle : t.dueAt? other timer ≠ some t.now := by simp [spared.silent]
      rw [if_neg idle]
      split
      · exact ⟨served, fun third ne => (unseen third ne).1.symm⟩
      · exact ⟨spared, fun _ _ => rfl⟩
    · obtain ⟨served, alike⟩ := spared.act_other same (.due timer)
      rw [spared.dueAt? same, spared.now]
      split
      · exact ⟨served, fun _ _ => by rw [alike]⟩
      · exact ⟨spared, fun _ _ => rfl⟩
  | submitted other ok => exact spared.act other (.submitted ok)
  | cancel other => exact spared.act other .cancel

/-- The other attempts do the same on every row of events on which time passes as it says. -/
theorem run (spared : Spared id s t) {events : List Event} (timely : s.Timely events) :
    Spared id (s.run events).1 (t.run events).1 ∧
      ∀ other, other ≠ id → own other (t.run events).2 = own other (s.run events).2 := by
  induction events generalizing s t with
  | nil => exact ⟨spared, fun _ _ => rfl⟩
  | cons event events ih =>
    obtain ⟨passes, later⟩ := timely_cons.1 timely
    obtain ⟨next, first⟩ := spared.step event passes
    obtain ⟨last, rest⟩ := ih next later
    refine ⟨last, fun other ne => ?_⟩
    rw [run_cons, run_cons, own_append, own_append, first other ne, rest other ne]

end Spared

/-- An attempt that is cancelled spares the others. -/
theorem spared_cancel {s : Schedule} {id : AttemptId} {attempt : Attempt}
    (found : s.attempts[id]? = some attempt) : Spared id s (s.step (.cancel id)).1 where
  now := act_now ..
  length := act_length ..
  others _ ne := (s.act_other (Ne.symm ne) .cancel).1
  still := ⟨_, (act_self found .cancel).1, attempt.still_cancel⟩

end Schedule

end DisclosureRelay.Return
