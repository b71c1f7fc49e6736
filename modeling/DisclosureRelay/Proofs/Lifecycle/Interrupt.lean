import DisclosureRelay.Proofs.Lifecycle.Alike
import DisclosureRelay.Proofs.Lifecycle.Standing

/-!
# A run beside a start and an abort

Two logins go side by side: one makes a run, the other the same call as a start and, when the
interrupt comes, an abort. Until then they are alike but for the interrupt that may still come
(`Marked`). If another call was faster, the run goes on as the start does (`Refused`). If the abort
takes the login over, the run waits for the exchange that belongs to the abort of the other login,
where the start is left with nothing to do (`Aborted`).
-/

namespace DisclosureRelay.Lifecycle

/-- The run of one login is a start in the other one, which has no interrupt. -/
inductive Marked (run : CallId) : CallId → Option Call → Option Call → Prop where
  | run {stage} : stage ≠ .interrupted →
    Marked run run (some ⟨.open, stage⟩) (some ⟨.none, stage⟩)
  | other {id call} : id ≠ run → Marked run id call call

/-- The run and the start are related, and the abort of the second login is at a stage. -/
inductive Beside (run abort : CallId) (Runs : Call → Call → Prop) (stage : Stage) :
    CallId → Option Call → Option Call → Prop where
  | run {call call'} : Runs call call' → Beside run abort Runs stage run (some call) (some call')
  | abort {call} : Beside run abort Runs stage abort call (some ⟨.none, stage⟩)
  | other {id call} : id ≠ run → id ≠ abort → Beside run abort Runs stage id call call

/-- The run goes on as the start does. -/
inductive Kept : Call → Call → Prop where
  | intro {interrupt stage} : interrupt ≠ .open → Kept ⟨interrupt, stage⟩ ⟨.none, stage⟩

/-- The run is at a stage of its own, while the start is superseded or still at its widget. -/
inductive Dropped (widget : Option WidgetId) (stage : Stage) : Call → Call → Prop where
  | intro {interrupt left} : interrupt ≠ .open →
    (left = .ended .superseded ∨ ∃ own ∈ widget, left = .atWidget own) →
    Dropped widget stage ⟨interrupt, stage⟩ ⟨.none, left⟩

/-- How far the abort exchange is, for the run and for the abort. -/
inductive Answers : Stage → Stage → Prop where
  | waits {stage} : stage = .interrupted ∨ stage = .atExchange .abort →
    Answers stage (.atExchange .abort)
  | ended {ending} : ending ≠ .superseded → Answers (.ended ending) (.ended ending)

/-- The interrupt of the run came to nothing, as did the abort in the other login. -/
abbrev Refused (run abort : CallId) (s t : State) : Prop :=
  s.Alike (Beside run abort Kept (.ended .superseded)) t

/-- Both logins were taken over for an abort, by the run in one and by the abort in the other. -/
structure Aborted (run abort : CallId) (widget : Option WidgetId) (s t : State) : Prop where
  terminal : s.phase.isTerminal = true
  registered : s.registered = none
  alike : ∃ stage stage', Answers stage stage' ∧
    s.Alike (Beside run abort (Dropped widget stage) stage') t

variable {run abort : CallId} {widget : Option WidgetId} {s t : State} {event : Event}

lemma Marked.own {id : CallId} (ne : id ≠ run) (call call' : Option Call) :
    Marked run id call call' ↔ call = call' := by
  constructor
  · intro same
    cases same with
    | run => exact absurd rfl ne
    | other => rfl
  · rintro rfl
    exact .other ne

lemma Marked.of_run {call call' : Option Call} (same : Marked run run call call') :
    ∃ stage, stage ≠ .interrupted ∧ call = some ⟨.open, stage⟩ ∧ call' = some ⟨.none, stage⟩ := by
  cases same with
  | run waiting => exact ⟨_, waiting, rfl, rfl⟩
  | other ne => exact absurd rfl ne

section Beside

variable {Runs : Call → Call → Prop} {stage : Stage}

lemma Beside.own {id : CallId} (ne : id ≠ run) (apart : id ≠ abort) (call call' : Option Call) :
    Beside run abort Runs stage id call call' ↔ call = call' := by
  constructor
  · intro same
    cases same with
    | run => exact absurd rfl ne
    | abort => exact absurd rfl apart
    | other => rfl
  · rintro rfl
    exact .other ne apart

lemma Beside.of_run (ne : run ≠ abort) {call call' : Option Call}
    (same : Beside run abort Runs stage run call call') :
    ∃ made made', call = some made ∧ call' = some made' ∧ Runs made made' := by
  cases same with
  | run runs => exact ⟨_, _, rfl, rfl, runs⟩
  | abort => exact absurd rfl ne
  | other ne => exact absurd rfl ne

lemma Beside.of_abort (ne : run ≠ abort) {call call' : Option Call}
    (same : Beside run abort Runs stage abort call call') : call' = some ⟨.none, stage⟩ := by
  cases same with
  | run => exact absurd rfl ne
  | abort => rfl
  | other _ ne => exact absurd rfl ne

/-- Two logins are beside each other when the run, the abort and every other call are. -/
lemma Beside.alike (config : t.config = s.config) (phase : t.phase = s.phase)
    (registered : t.registered = s.registered) {call call' : Call} (made : s.calls run = some call)
    (made' : t.calls run = some call') (runs : Runs call call')
    (aborts : t.calls abort = some ⟨.none, stage⟩)
    (others : ∀ other, other ≠ run → other ≠ abort → s.calls other = t.calls other) :
    s.Alike (Beside run abort Runs stage) t := by
  refine .of_calls config phase registered fun other => ?_
  by_cases own : other = run
  · rw [own, made, made']
    exact .run runs
  · by_cases apart : other = abort
    · rw [apart, aborts]
      exact .abort
    · exact (Beside.own own apart ..).2 (others other own apart)

end Beside

/-- An interrupt that cannot come, or that came before, is no event. -/
lemma State.step_interrupt_closed {id : CallId} {call : Call} (made : s.calls id = some call)
    (closed : call.interrupt ≠ .open) : s.step (.interrupt id) = (s, []) := by
  unfold step
  dsimp only
  rw [made]
  split
  · next eq =>
    cases eq
    exact absurd rfl closed
  · next eq =>
    cases eq
    exact absurd rfl closed
  · rfl

/-- A run goes as a start does until its interrupt comes. -/
theorem Marked.step (alike : s.Alike (Marked run) t) (unnoticed : event ≠ .interrupt run) :
    State.Agree (Marked run) (s.step event) (t.step event) := by
  by_cases own : event.caller = run
  · subst own
    obtain ⟨stage, -, made, made'⟩ := Marked.of_run (alike.calls event.caller)
    refine alike.step_marked made made' (fun stage waiting => .run waiting) ?_
    rintro id rfl
    exact unnoticed rfl
  · exact alike.step_own (Marked.own own)

/-- After its interrupt came to nothing a run goes as the start does. -/
theorem Refused.step (ne : run ≠ abort) (alike : Refused run abort s t)
    (apart : event.caller ≠ abort) :
    State.Agree (Beside run abort Kept (.ended .superseded)) (s.step event) (t.step event) := by
  by_cases own : event.caller = run
  · subst own
    obtain ⟨_, _, made, made', closed⟩ := Beside.of_run ne (alike.calls event.caller)
    cases closed with
    | @intro interrupt stage closed =>
      by_cases comes : event = .interrupt event.caller
      · have closed' : Interrupt.none ≠ .open := by simp
        rw [comes, State.step_interrupt_closed made closed,
          State.step_interrupt_closed made' closed']
        exact ⟨alike, rfl⟩
      · refine alike.step_marked made made' (fun stage _ => .run (.intro closed)) ?_
        rintro id rfl
        exact comes rfl
  · exact alike.step_own (Beside.own own apart)

lemma Aborted.phase (aborted : Aborted run abort widget s t) : t.phase = s.phase := by
  obtain ⟨-, -, _, _, -, alike⟩ := aborted
  exact alike.phase

/-- The run and the abort end together. -/
lemma Aborted.finish (ne : run ≠ abort) {stage stage' : Stage}
    (alike : s.Alike (Beside run abort (Dropped widget stage) stage') t) (ending : Ending) :
    (s.moveTo run (.ended ending)).Alike
      (Beside run abort (Dropped widget (.ended ending)) (.ended ending))
      (t.moveTo abort (.ended ending)) := by
  obtain ⟨_, _, made, made', dropped⟩ := Beside.of_run ne (alike.calls run)
  have begun := Beside.of_abort ne (alike.calls abort)
  cases dropped with
  | intro closed idles =>
    refine Beside.alike alike.config alike.phase alike.registered (by simp [made])
      (by simp [ne, made']) (.intro closed idles) (by simp [begun]) ?_
    intro other own apart
    simpa [own, apart, Beside.own own apart] using alike.calls other

/-- The reply to the abort exchange means the same to the run and to the abort. -/
lemma Aborted.replied (aborted : Aborted run abort widget s t) (ne : run ≠ abort)
    (reply : Http.Reply) :
    Aborted run abort widget (s.replied run .abort reply).1 (t.replied abort .abort reply).1 ∧
      (s.replied run .abort reply).2.filterMap Effect.anonymous? =
        (t.replied abort .abort reply).2.filterMap Effect.anonymous? := by
  obtain ⟨terminal, registered, stage, stage', -, alike⟩ := aborted
  have ends {ending : Ending} (decided : ending ≠ .superseded) :
      Aborted run abort widget (s.moveTo run (.ended ending)) (t.moveTo abort (.ended ending)) :=
    ⟨terminal, registered, _, _, .ended decided, Aborted.finish ne alike ending⟩
  unfold State.replied
  rw [alike.config]
  split
  · exact ⟨ends (by simp), rfl⟩
  · exact ⟨ends (by simp), rfl⟩

/-- A widget that ends in a login that was taken over comes too late. -/
lemma State.widgetEnded_late {id : CallId} (terminal : s.phase.isTerminal = true)
    (unregistered : s.registered = none) (outcome : Widget.Outcome) :
    s.widgetEnded id outcome = s.finish id .superseded := by
  have same : { s with registered := none } = s := by rw [← unregistered]
  unfold widgetEnded
  rw [same]
  cases outcome with
  | completed token => exact if_neg (Phase.isTerminal_ne terminal).2
  | failed reason => exact if_pos terminal
  | aborted => exact if_pos terminal

/-- What is left of the start comes too late. -/
lemma Aborted.widgetEnded (aborted : Aborted run abort widget s t) (ne : run ≠ abort)
    (outcome : Widget.Outcome) :
    Aborted run abort widget s (t.widgetEnded run outcome).1 ∧
      (t.widgetEnded run outcome).2.filterMap Effect.anonymous? = [] := by
  obtain ⟨terminal, registered, stage, stage', answers, alike⟩ := aborted
  rw [State.widgetEnded_late (alike.phase ▸ terminal) (alike.registered.trans registered)]
  refine ⟨⟨terminal, registered, stage, stage', answers, ?_⟩, rfl⟩
  obtain ⟨_, _, made, made', dropped⟩ := Beside.of_run ne (alike.calls run)
  have begun := Beside.of_abort ne (alike.calls abort)
  cases dropped with
  | intro closed idles =>
    refine Beside.alike alike.config alike.phase alike.registered made
      (by simp [made']) (.intro closed (.inl rfl))
      (by simp [ne.symm, begun]) ?_
    intro other own apart
    simpa [own, Beside.own own apart] using alike.calls other

/-- Where the run, the start and the abort are. -/
lemma Aborted.calls (aborted : Aborted run abort widget s t) (ne : run ≠ abort) :
    ∃ interrupt stage stage' left, interrupt ≠ .open ∧ Answers stage stage' ∧
      (left = .ended .superseded ∨ ∃ own ∈ widget, left = .atWidget own) ∧
      s.calls run = some ⟨interrupt, stage⟩ ∧ t.calls run = some ⟨.none, left⟩ ∧
      t.calls abort = some ⟨.none, stage'⟩ := by
  obtain ⟨-, -, stage, stage', answers, alike⟩ := aborted
  obtain ⟨_, _, made, made', dropped⟩ := Beside.of_run ne (alike.calls run)
  cases dropped with
  | intro closed left =>
    exact ⟨_, stage, stage', _, closed, answers, left, made, made',
      Beside.of_abort ne (alike.calls abort)⟩

/-- After the abort took the login over, an event of the run does the same in both logins, once the
reply to its exchange goes to the abort. -/
lemma Aborted.step_run (aborted : Aborted run abort widget s t) (ne : run ≠ abort)
    (own : event.caller = run) :
    Aborted run abort widget (s.step event).1 (t.step (event.redirect run abort)).1 ∧
      (s.step event).2.filterMap Effect.anonymous? =
        (t.step (event.redirect run abort)).2.filterMap Effect.anonymous? := by
  obtain ⟨_, stage, stage', left, closed, answers, idles, made, made', begun⟩ := aborted.calls ne
  have waits : s.stage? run = some stage := by simp [State.stage?, made]
  have waits' : t.stage? run = some left := by simp [State.stage?, made']
  have flies : t.stage? abort = some stage' := by simp [State.stage?, begun]
  cases event with
  | call id entry =>
    obtain rfl : id = run := own
    simp only [State.step, Event.redirect, made, made']
    exact ⟨aborted, trivial⟩
  | widgetEnded id outcome =>
    obtain rfl : id = run := own
    -- the run gave its widget up, so that only the start is left to hear of it
    have idle : s.step (.widgetEnded id outcome) = (s, []) := by
      unfold State.step
      dsimp only
      rw [waits]
      cases answers with
      | waits which => obtain rfl | rfl := which <;> rfl
      | ended => rfl
    rw [idle]
    simp only [State.step, Event.redirect, waits']
    obtain rfl | ⟨own, -, rfl⟩ := idles
    · exact ⟨aborted, rfl⟩
    · obtain ⟨next, quiet⟩ := aborted.widgetEnded ne outcome
      exact ⟨next, quiet.symm⟩
  | replied id reply =>
    obtain rfl : id = run := own
    simp only [State.step, Event.redirect, waits, if_true, flies]
    cases answers with
    | waits which => obtain rfl | rfl := which <;> exact aborted.replied ne reply
    | ended => exact ⟨aborted, rfl⟩
  | interrupt id =>
    obtain rfl : id = run := own
    have stays : t.step (.interrupt id) = (t, []) := State.step_interrupt_closed made' (by simp)
    simp only [Event.redirect, State.step_interrupt_closed made closed, stays]
    exact ⟨aborted, trivial⟩

/-- After the abort took the login over, every event does the same in both logins. -/
theorem Aborted.step (aborted : Aborted run abort widget s t) (ne : run ≠ abort)
    (apart : event.caller ≠ abort) :
    Aborted run abort widget (s.step event).1 (t.step (event.redirect run abort)).1 ∧
      (s.step event).2.filterMap Effect.anonymous? =
        (t.step (event.redirect run abort)).2.filterMap Effect.anonymous? := by
  by_cases own : event.caller = run
  · exact aborted.step_run ne own
  · -- only the replies to the run were redirected
    have same : event.redirect run abort = event := by
      cases event with
      | replied id reply => simp only [Event.redirect, if_neg (show id ≠ run from own)]
      | _ => rfl
    obtain ⟨terminal, registered, stage, stage', answers, alike⟩ := aborted
    obtain ⟨terminal', registered'⟩ := (State.step_move s event).terminal terminal registered
    obtain ⟨next, effects⟩ := alike.step_own (Beside.own own apart)
    rw [same, effects]
    exact ⟨⟨terminal', registered', stage, stage', answers, next⟩, rfl⟩

/-- The interrupt of a run that is under way is an event. -/
lemma State.step_interrupt_open {id : CallId} {stage : Stage} (made : s.calls id = some ⟨.open, stage⟩)
    (running : stage ≠ .interrupted) (pending : ∀ ending, stage ≠ .ended ending) :
    s.step (.interrupt id) = s.interrupt id := by
  unfold step
  dsimp only
  rw [made]
  cases stage with
  | atWidget | atExchange => rfl
  | interrupted => exact absurd rfl running
  | ended ending => exact absurd rfl (pending ending)

/-- A new call for an abort. -/
lemma State.step_abort {id : CallId} (fresh : s.calls id = none) :
    s.step (.call id .abort) = s.abort id := by
  unfold step
  dsimp only
  rw [fresh]
  rfl

section Moment

variable (alike : s.Alike (Marked run) t) (pending : ∀ ending, s.stage? run ≠ some (.ended ending))
  (fresh : t.calls abort = none)
include alike pending fresh

/-- What the interrupt and the abort do at the moment they come. -/
lemma Marked.moment : run ≠ abort ∧ s.step (.interrupt run) = s.interrupt run ∧
    t.step (.call abort .abort) = t.abort abort ∧
    ∃ stage, s.calls run = some ⟨.open, stage⟩ ∧ t.calls run = some ⟨.none, stage⟩ := by
  obtain ⟨stage, running, made, made'⟩ := Marked.of_run (alike.calls run)
  refine ⟨?_, State.step_interrupt_open made running ?_, State.step_abort fresh, stage, made, made'⟩
  · rintro rfl
    simp [made'] at fresh
  · rintro ending rfl
    exact pending ending (by simp [State.stage?, made])

/-- When another call was faster, the interrupt and the abort come to nothing. -/
theorem Marked.refused (terminal : s.phase.isTerminal = true) :
    Refused run abort (s.step (.interrupt run)).1 (t.step (.call abort .abort)).1 ∧
      (s.step (.interrupt run)).2.filterMap Effect.anonymous? =
        (t.step (.call abort .abort)).2.filterMap Effect.anonymous? := by
  obtain ⟨ne, interrupts, aborts, stage, made, made'⟩ := Marked.moment alike pending fresh
  have goes : s.interrupt run = (s.mark run .taken, []) := if_pos terminal
  have stops : t.abort abort = t.finish abort .superseded := if_pos (alike.phase ▸ terminal)
  rw [interrupts, aborts, goes, stops]
  have taken : (s.mark run .taken).calls run = some ⟨.taken, stage⟩ := by simp [made]
  have left : (t.finish abort .superseded).1.calls run = some ⟨.none, stage⟩ := by
    simp [ne, made']
  refine ⟨Beside.alike alike.config alike.phase alike.registered taken left (.intro (by simp))
    (by simp [fresh]) ?_, rfl⟩
  intro other own apart
  simpa [own, apart, Marked.own own] using alike.calls other

/-- When no call was faster, the interrupt and the abort both take the login over. -/
theorem Marked.aborted {own : WidgetId} (nonterminal : s.phase.isTerminal = false)
    (waits : s.stage? run = some (.atWidget own)) :
    Aborted run abort (some own) (s.step (.interrupt run)).1 (t.step (.call abort .abort)).1 ∧
      (s.step (.interrupt run)).2.filterMap Effect.anonymous? =
        (t.step (.call abort .abort)).2.filterMap Effect.anonymous? := by
  obtain ⟨ne, interrupts, aborts, stage, made, made'⟩ := Marked.moment alike pending fresh
  obtain rfl : stage = .atWidget own := by simpa [State.stage?, made] using waits
  have goes : s.interrupt run = (s.mark run .taken).returnWithAbort run .interrupted :=
    if_neg (by simp [nonterminal])
  have stops : t.abort abort = t.returnWithAbort abort (.atExchange .abort) :=
    if_neg (by simp [alike.phase, nonterminal])
  rw [interrupts, aborts, goes, stops]
  refine ⟨⟨rfl, rfl, .interrupted, .atExchange .abort, .waits (.inl rfl), ?_⟩, ?_⟩
  · have taken : ((s.mark run .taken).returnWithAbort run .interrupted).1.calls run =
        some ⟨.taken, .interrupted⟩ := by
      simp [made]
    have left : (t.returnWithAbort abort (.atExchange .abort)).1.calls run =
        some ⟨.none, .atWidget own⟩ := by
      simp [ne, made']
    refine Beside.alike alike.config rfl rfl taken left (.intro (by simp) (.inr ⟨own, rfl, rfl⟩))
      (by simp [fresh]) ?_
    intro other own apart
    simpa [own, apart, Marked.own own] using alike.calls other
  · simp only [State.returnWithAbort, State.mark_registered, alike.registered,
      List.filterMap_append]
    rfl

end Moment

section AtOnce

variable (ne : run ≠ abort) (runs : s.calls run = none)
include ne runs

/-- A start after an abort is superseded. -/
lemma State.step_start_after_abort (widget : WidgetId) :
    (s.abort abort).1.step (.call run (.start widget)) =
      (s.abort abort).1.finish run .superseded := by
  have claimed : (s.abort abort).1.phase ≠ .idle := by
    unfold State.abort
    split
    · next terminal => exact (Phase.isTerminal_ne terminal).1
    · simp
  have fresh : (s.abort abort).1.calls run = none := by
    unfold State.abort
    split <;> simp [ne, runs]
  unfold step
  dsimp only
  rw [fresh]
  exact if_pos claimed

variable (aborts : s.calls abort = none)
include aborts

/-- Where another call was faster, an abort and a start after it come to nothing. -/
theorem Refused.at_once (terminal : s.phase.isTerminal = true) :
    Refused run abort (s.abort run).1 ((s.abort abort).1.finish run .superseded).1 := by
  have late (id : CallId) : s.abort id = s.finish id .superseded := if_pos terminal
  rw [late, late]
  have taken : (s.finish run .superseded).1.calls run = some ⟨.none, .ended .superseded⟩ := by
    simp [runs]
  have left : ((s.finish abort .superseded).1.finish run .superseded).1.calls run =
      some ⟨.none, .ended .superseded⟩ := by
    simp [ne, runs]
  refine Beside.alike rfl rfl rfl taken left (.intro (by simp)) ?_ ?_
  · simp [ne.symm, aborts]
  · intro other own apart
    simp [own, apart]

/-- Where no call was faster, an abort takes the login over and a start after it comes to nothing. -/
theorem Aborted.at_once (nonterminal : s.phase.isTerminal = false) :
    Aborted run abort none (s.abort run).1 ((s.abort abort).1.finish run .superseded).1 := by
  have takes (id : CallId) : s.abort id = s.returnWithAbort id (.atExchange .abort) :=
    if_neg (by simp [nonterminal])
  rw [takes, takes]
  have taken : (s.returnWithAbort run (.atExchange .abort)).1.calls run =
      some ⟨.none, .atExchange .abort⟩ := by
    simp [runs]
  have left : ((s.returnWithAbort abort (.atExchange .abort)).1.finish run .superseded).1.calls run =
      some ⟨.none, .ended .superseded⟩ := by
    simp [ne, runs]
  refine ⟨rfl, rfl, _, _, .waits (.inr rfl),
    Beside.alike rfl rfl rfl taken left (.intro (by simp) (.inl rfl)) ?_ ?_⟩
  · simp [ne.symm, aborts]
  · intro other own apart
    simp [own, apart]

end AtOnce

/-- Whichever call it is that comes for an abort, it does the same. -/
lemma State.abort_anonymous (s : State) (id other : CallId) :
    (s.abort id).1.phase = (s.abort other).1.phase ∧
      (s.abort id).2.filterMap Effect.anonymous? = (s.abort other).2.filterMap Effect.anonymous? := by
  unfold State.abort
  split
  · exact ⟨rfl, rfl⟩
  · simp [State.returnWithAbort]

/-- A run begins as a start does, except that its interrupt may come. -/
theorem Marked.start (fresh : s.calls run = none) (widget : WidgetId) :
    State.Agree (Marked run) (s.step (.call run (.run widget)))
      (s.step (.call run (.start widget))) := by
  obtain ⟨stage, running, made⟩ : ∃ stage, stage ≠ .interrupted ∧
      (s.start run widget).1.calls run = some ⟨.none, stage⟩ := by
    unfold State.start
    split
    · exact ⟨.ended .superseded, by simp, by simp [fresh]⟩
    · dsimp only
      split
      · exact ⟨.atExchange .error, by simp, by
          simp [State.handleError, Phase.isTerminal, State.returnWithError, fresh]⟩
      · exact ⟨.atWidget widget, by simp, by simp [fresh]⟩
  unfold State.step
  dsimp only
  rw [fresh]
  refine ⟨.of_calls rfl rfl rfl fun other => ?_, rfl⟩
  by_cases own : other = run
  · subst own
    simp only [State.enter, State.mark_calls, made, if_true]
    exact .run running
  · simp only [State.enter, State.mark_calls, own, if_false]
    exact .other own

/-- A run waits for what the start waits for until its interrupt comes. -/
lemma Marked.stage? (alike : s.Alike (Marked run) t) (id : CallId) : t.stage? id = s.stage? id := by
  have same := alike.calls id
  unfold State.stage?
  generalize s.calls id = call, t.calls id = call' at same
  cases same with
  | run => rfl
  | other => rfl

/-- After its interrupt came to nothing a run waits for what the start waits for. -/
lemma Refused.stage? (refused : Refused run abort s t) {id : CallId} (apart : id ≠ abort) :
    t.stage? id = s.stage? id := by
  have same := refused.calls id
  unfold State.stage?
  generalize s.calls id = call, t.calls id = call' at same
  cases same with
  | run kept => cases kept; rfl
  | abort => exact absurd rfl apart
  | other => rfl

/-- After the abort took the login over, the start alone may still be at its widget. -/
lemma Aborted.stage? (aborted : Aborted run abort widget s t) (ne : run ≠ abort) {id : CallId}
    (apart : id ≠ abort) :
    t.stage? id = s.stage? id ∨
      (∀ other, s.stage? id ≠ some (.atWidget other)) ∧
        ∀ other, t.stage? id = some (.atWidget other) → other ∈ widget := by
  by_cases own : id = run
  · subst own
    obtain ⟨_, stage, stage', left, -, answers, idles, made, made', -⟩ := aborted.calls ne
    refine .inr ⟨fun other waits => ?_, fun other waits => ?_⟩
    · obtain rfl : stage = .atWidget other := by simpa [State.stage?, made] using waits
      cases answers with
      | waits which => simp at which
    · obtain rfl : left = .atWidget other := by simpa [State.stage?, made'] using waits
      obtain late | ⟨own, given, same⟩ := idles
      · cases late
      · cases same
        exact given
  · obtain ⟨-, -, stage, stage', -, alike⟩ := aborted
    exact .inl (by simp [State.stage?, (Beside.own own apart ..).1 (alike.calls id)])

/-- An abort that takes a login over tells the registered widget to stop. -/
lemma State.abort_stops {own : WidgetId} (nonterminal : s.phase.isTerminal = false)
    (registered : s.registered = some own) (id : CallId) :
    .abortWidget own ∈ (s.abort id).2 := by
  simp [State.abort, nonterminal, State.returnWithAbort, registered]

/-- The ending of a run is the one of the start and the abort that is not superseded. -/
structure Merges (s : State) (run : CallId) (t : State) (abort : CallId) : Prop where
  decided : ∀ ending, ending ≠ .superseded →
    (s.ending? run = some ending ↔ t.ending? run = some ending ∨ t.ending? abort = some ending)
  superseded : s.ending? run = some .superseded ↔
    t.ending? run = some .superseded ∧ t.ending? abort = some .superseded
  single : ∀ ending other, t.ending? run = some ending → t.ending? abort = some other →
    ending = .superseded ∨ other = .superseded

/-- A run that goes on as the start does ends as it does. -/
lemma Refused.merges (refused : Refused run abort s t) (ne : run ≠ abort) :
    Merges s run t abort := by
  obtain ⟨_, _, made, made', kept⟩ := Beside.of_run ne (refused.calls run)
  have begun := Beside.of_abort ne (refused.calls abort)
  have late : t.ending? abort = some .superseded := by simp [State.ending?, State.stage?, begun]
  have same : s.ending? run = t.ending? run := by
    cases kept
    simp [State.ending?, State.stage?, made, made']
  refine ⟨fun ending decided => ?_, ?_, ?_⟩
  · simp [same, late, decided.symm]
  · simp [same, late]
  · intro ending other _ ended
    exact .inr (Option.some.inj (ended.symm.trans late))

/-- A run that took the login over ends as the abort does. -/
lemma Aborted.merges (aborted : Aborted run abort widget s t) (ne : run ≠ abort) :
    Merges s run t abort := by
  obtain ⟨_, stage, stage', left, -, answers, idles, made, made', begun⟩ := aborted.calls ne
  have late ending (ended : t.ending? run = some ending) : ending = .superseded := by
    obtain rfl | ⟨own, -, rfl⟩ := idles
    · simpa [State.ending?, State.stage?, made', eq_comm] using ended
    · simp [State.ending?, State.stage?, made'] at ended
  have same : s.ending? run = t.ending? abort := by
    cases answers with
    | waits which =>
      obtain rfl | rfl := which <;> simp [State.ending?, State.stage?, made, begun]
    | ended => simp [State.ending?, State.stage?, made, begun]
  have decides : t.ending? abort ≠ some .superseded := by
    cases answers with
    | waits => simp [State.ending?, State.stage?, begun]
    | ended decided => simpa [State.ending?, State.stage?, begun] using decided
  refine ⟨fun ending decided => ?_, ?_, ?_⟩
  · rw [same]
    constructor
    · exact .inr
    · rintro (ended | ended)
      · exact absurd (late ending ended) decided
      · exact ended
  · rw [same]
    exact ⟨fun ended => absurd ended decides, And.right⟩
  · intro ending other ended _
    exact .inl (late ending ended)

end DisclosureRelay.Lifecycle
