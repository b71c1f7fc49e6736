import DisclosureRelay.Proofs.Lifecycle.Inversion

/-!
# Logins that a call cannot tell apart

Two logins are alike when they differ in their calls only, and there as far as a relation allows. An
event looks at the call it is about and at nothing of any other call, so that it does the same in
both if that call is the same (`Alike.step_own`), or waits for the same where an interrupt can come
or came in one of them only (`Alike.step_marked`).
-/

namespace DisclosureRelay.Lifecycle.State

/-- The calls of two logins are related one by one, and the rest is the same. -/
inductive Alike (Same : CallId → Option Call → Option Call → Prop) (s : State) : State → Prop where
  | intro (calls : CallId → Option Call) :
    (∀ id, Same id (s.calls id) (calls id)) → Alike Same s { s with calls }

/-- Two logins do the same and are alike afterwards. -/
def Agree (Same : CallId → Option Call → Option Call → Prop) (out other : Outgoing) : Prop :=
  out.1.Alike Same other.1 ∧ out.2 = other.2

variable {Same : CallId → Option Call → Option Call → Prop} {s t : State} {id : CallId}

lemma Alike.config (alike : s.Alike Same t) : t.config = s.config := by
  cases alike
  rfl

lemma Alike.phase (alike : s.Alike Same t) : t.phase = s.phase := by
  cases alike
  rfl

lemma Alike.registered (alike : s.Alike Same t) : t.registered = s.registered := by
  cases alike
  rfl

lemma Alike.calls (alike : s.Alike Same t) (id : CallId) : Same id (s.calls id) (t.calls id) := by
  cases alike with
  | intro calls same => exact same id

/-- Logins are alike when only their calls can differ. -/
lemma Alike.of_calls (config : t.config = s.config) (phase : t.phase = s.phase)
    (registered : t.registered = s.registered)
    (calls : ∀ id, Same id (s.calls id) (t.calls id)) : s.Alike Same t := by
  cases t with
  | mk =>
    cases config
    cases phase
    cases registered
    exact .intro _ calls

/-- Logins stay alike when a call goes to the same stage in both. -/
lemma Alike.moveTo (alike : s.Alike Same t) (phase : Phase) (registered : Option WidgetId)
    {stage : Stage} (moved : Same id ((s.moveTo id stage).calls id) ((t.moveTo id stage).calls id)) :
    ({ s with phase, registered }.moveTo id stage).Alike Same
      ({ t with phase, registered }.moveTo id stage) := by
  cases alike with
  | intro calls same =>
    refine .intro _ fun other => ?_
    by_cases own : other = id
    · rw [own]
      exact moved
    · simpa [own] using same other

/-- The beginning of an abort is the same wherever the call goes to the same stage. -/
lemma Alike.returnWithAbort (alike : s.Alike Same t) {waiting : Stage}
    (moved : Same id ((s.moveTo id waiting).calls id) ((t.moveTo id waiting).calls id)) :
    Agree Same (s.returnWithAbort id waiting) (t.returnWithAbort id waiting) := by
  refine ⟨alike.moveTo .aborting none moved, ?_⟩
  unfold State.returnWithAbort
  rw [alike.registered]

section Functions

variable (alike : s.Alike Same t)
  (moved : ∀ stage, stage ≠ .interrupted →
    Same id ((s.moveTo id stage).calls id) ((t.moveTo id stage).calls id))
include alike moved

lemma Alike.finish (ending : Ending) : Agree Same (s.finish id ending) (t.finish id ending) := by
  have next := alike.moveTo s.phase s.registered (moved (.ended ending) nofun)
  cases alike
  exact ⟨next, rfl⟩

lemma Alike.returnWithError : Agree Same (s.returnWithError id) (t.returnWithError id) := by
  have next := alike.moveTo .erroring s.registered (moved (.atExchange .error) nofun)
  cases alike
  exact ⟨next, rfl⟩

lemma Alike.handleError : Agree Same (s.handleError id) (t.handleError id) := by
  unfold State.handleError
  rw [alike.phase]
  split
  · exact alike.finish moved .superseded
  · exact alike.returnWithError moved

lemma Alike.abort : Agree Same (s.abort id) (t.abort id) := by
  unfold State.abort
  rw [alike.phase]
  split
  · exact alike.finish moved .superseded
  · exact alike.returnWithAbort (moved (.atExchange .abort) nofun)

lemma Alike.start (widget : WidgetId) : Agree Same (s.start id widget) (t.start id widget) := by
  have late := alike.finish moved .superseded
  have fails := alike.moveTo .erroring s.registered (moved (.atExchange .error) nofun)
  have starts := alike.moveTo .starting (some widget) (moved (.atWidget widget) nofun)
  cases alike
  unfold State.start
  dsimp only
  split
  · exact late
  · split
    · exact ⟨fails, rfl⟩
    · exact ⟨starts, rfl⟩

lemma Alike.arm (assertion : Assertion) : Agree Same (s.arm id assertion) (t.arm id assertion) := by
  obtain ⟨next, -⟩ := alike.finish moved (.returning assertion)
  exact ⟨next, rfl⟩

lemma Alike.fail (failure : Failure) : Agree Same (s.fail id failure) (t.fail id failure) := by
  obtain ⟨next, -⟩ := alike.finish moved (.failed failure)
  exact ⟨next, rfl⟩

lemma Alike.replied (exchange : Exchange) (reply : Http.Reply) :
    Agree Same (s.replied id exchange reply) (t.replied id exchange reply) := by
  unfold State.replied
  rw [alike.config]
  split
  · exact alike.arm moved _
  · split
    · exact alike.returnWithError moved
    · exact alike.fail moved _
    · exact alike.fail moved _

lemma Alike.widgetEnded (outcome : Widget.Outcome) :
    Agree Same (s.widgetEnded id outcome) (t.widgetEnded id outcome) := by
  have unregistered : State.Alike Same { s with registered := none } { t with registered := none } := by
    cases alike with
    | intro calls same => exact .intro calls same
  cases outcome with
  | completed token =>
    have late := unregistered.finish moved .superseded
    have succeeds := alike.moveTo .succeeded none (moved (.atExchange (.success token)) nofun)
    cases alike
    unfold State.widgetEnded
    dsimp only
    split
    · exact ⟨succeeds, rfl⟩
    · exact late
  | failed reason => exact unregistered.handleError moved
  | aborted => exact unregistered.abort moved

end Functions

/-- Noting an interrupt in both keeps them alike where the relation allows it. -/
lemma Alike.mark (alike : s.Alike Same t) {interrupt : Interrupt}
    (marked : Same id ((s.mark id interrupt).calls id) ((t.mark id interrupt).calls id)) :
    (s.mark id interrupt).Alike Same (t.mark id interrupt) := by
  cases alike with
  | intro calls same =>
    refine .intro _ fun other => ?_
    by_cases own : other = id
    · rw [own]
      exact marked
    · simpa [own] using same other

/-- An end of the widget or a reply does the same where a call waits for the same. -/
lemma Alike.step_waiting {event : Event} (alike : s.Alike Same t)
    (waits : t.stage? event.caller = s.stage? event.caller)
    (moved : ∀ stage, stage ≠ .interrupted →
      Same event.caller ((s.moveTo event.caller stage).calls event.caller)
        ((t.moveTo event.caller stage).calls event.caller))
    (made : ∀ id entry, event = .call id entry → s.calls id ≠ none ∧ t.calls id ≠ none)
    (unnoticed : ∀ id, event ≠ .interrupt id) : Agree Same (s.step event) (t.step event) := by
  cases event with
  | call id entry =>
    obtain ⟨made, made'⟩ := made id entry rfl
    obtain ⟨_, made⟩ := Option.ne_none_iff_exists'.1 made
    obtain ⟨_, made'⟩ := Option.ne_none_iff_exists'.1 made'
    simp only [step, made, made']
    exact ⟨alike, rfl⟩
  | widgetEnded id outcome =>
    replace waits : t.stage? id = s.stage? id := waits
    unfold step
    dsimp only
    rw [waits]
    split
    · exact alike.widgetEnded moved outcome
    · exact ⟨alike, rfl⟩
  | replied id reply =>
    replace waits : t.stage? id = s.stage? id := waits
    unfold step
    dsimp only
    rw [waits]
    split
    · exact alike.replied moved _ reply
    · exact alike.replied moved .abort reply
    · exact ⟨alike, rfl⟩
  | interrupt id => exact absurd rfl (unnoticed id)

section Own

variable (alike : s.Alike Same t) (own : ∀ call call', Same id call call' ↔ call = call')
include alike own

/-- A call that is the same in both logins goes to the same stage. -/
lemma Alike.moved_own (stage : Stage) :
    Same id ((s.moveTo id stage).calls id) ((t.moveTo id stage).calls id) := by
  have same : s.calls id = t.calls id := (own ..).1 (alike.calls id)
  simp [own, same]

/-- The same becomes of the interrupt of such a call. -/
lemma Alike.mark_own (interrupt : Interrupt) :
    (s.mark id interrupt).Alike Same (t.mark id interrupt) := by
  have same : s.calls id = t.calls id := (own ..).1 (alike.calls id)
  exact alike.mark (by simp [own, same])

lemma Alike.enter_own (entry : Entry) : Agree Same (s.enter id entry) (t.enter id entry) := by
  have moved := alike.moved_own own
  cases entry with
  | start widget => exact alike.start (fun stage _ => moved stage) widget
  | run widget =>
    obtain ⟨next, effects⟩ := alike.start (fun stage _ => moved stage) widget
    exact ⟨next.mark_own own .open, effects⟩
  | handleError => exact alike.handleError fun stage _ => moved stage
  | abort => exact alike.abort fun stage _ => moved stage

lemma Alike.interrupt_own : Agree Same (s.interrupt id) (t.interrupt id) := by
  have marked := alike.mark_own own .taken
  unfold State.interrupt
  dsimp only
  rw [marked.phase]
  split
  · exact ⟨marked, rfl⟩
  · exact marked.returnWithAbort (marked.moved_own own .interrupted)

end Own

/-- An event does the same where its call is the same in both logins. -/
theorem Alike.step_own {event : Event} (alike : s.Alike Same t)
    (own : ∀ call call', Same event.caller call call' ↔ call = call') :
    Agree Same (s.step event) (t.step event) := by
  have same : s.calls event.caller = t.calls event.caller := (own ..).1 (alike.calls _)
  have waits : t.stage? event.caller = s.stage? event.caller := by simp [stage?, same]
  cases event with
  | call id entry =>
    replace same : s.calls id = t.calls id := same
    unfold step
    dsimp only
    rw [same]
    split
    · exact alike.enter_own own entry
    · exact ⟨alike, rfl⟩
  | widgetEnded | replied =>
    exact alike.step_waiting waits (fun stage _ => alike.moved_own own stage) (by simp) (by simp)
  | interrupt id =>
    replace same : s.calls id = t.calls id := same
    unfold step
    dsimp only
    rw [same]
    split
    · exact alike.interrupt_own own
    · exact alike.interrupt_own own
    · exact ⟨alike, rfl⟩

/-- An event other than an interrupt does the same where its call waits for the same, whatever is
known of its interrupt. -/
theorem Alike.step_marked {event : Event} (alike : s.Alike Same t) {stage : Stage} {m m' : Interrupt}
    (made : s.calls event.caller = some ⟨m, stage⟩) (made' : t.calls event.caller = some ⟨m', stage⟩)
    (same : ∀ stage, stage ≠ .interrupted → Same event.caller (some ⟨m, stage⟩) (some ⟨m', stage⟩))
    (unnoticed : ∀ id, event ≠ .interrupt id) : Agree Same (s.step event) (t.step event) := by
  refine alike.step_waiting (by simp [stage?, made, made']) ?_ ?_ unnoticed
  · intro stage waiting
    simpa [made, made'] using same stage waiting
  · rintro id entry rfl
    simp [show s.calls id = _ from made, show t.calls id = _ from made']

end DisclosureRelay.Lifecycle.State
