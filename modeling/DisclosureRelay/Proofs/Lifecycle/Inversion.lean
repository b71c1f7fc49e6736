import DisclosureRelay.Lifecycle.History
import Mathlib.Tactic.Lemma

/-!
# What an event can do

`Move` lists the ways in which a login goes on, each with what has to hold for it, what it does to
the phase, the registered widget and the stages, and what it brings about. `State.step_move` says
that every event is one of these moves, so that what all events keep is shown by cases on `Move`
and no rule of `State.step` has to be opened again. Interrupts that are noted are left out of it:
only `State.step` itself looks at them.
-/

namespace DisclosureRelay.Lifecycle

/-- The widget that a call runs, if it runs one. -/
def Entry.widget? : Entry → Option WidgetId
  | .start widget | .run widget => some widget
  | .handleError | .abort => none

/-- A call that took the login over is neither before nor at its start. -/
lemma Phase.isTerminal_ne {phase : Phase} (terminal : phase.isTerminal = true) :
    phase ≠ .idle ∧ phase ≠ .starting := by
  cases phase <;> simp_all [Phase.isTerminal]

namespace State

/-- The widget that is registered once an event is taken up: the end of a widget takes it off. -/
def left (s : State) : Event → Option WidgetId
  | .widgetEnded _ _ => none
  | _ => s.registered

/-- One call goes to a stage and the login to a phase; no other call changes its stage. -/
structure Reaches (s t : State) (id : CallId) (phase : Phase) (registered : Option WidgetId)
    (stage : Stage) : Prop where
  config : t.config = s.config
  phase : t.phase = phase
  registered : t.registered = registered
  stage : ∀ other, t.stage? other = if other = id then some stage else s.stage? other

/-- The event makes a call, or goes on with one after its widget ended. -/
inductive Frees (s : State) : Event → CallId → Prop where
  | call {id entry} : s.stage? id = none → Frees s (.call id entry) id
  | widgetEnded {id widget outcome} :
    s.stage? id = some (.atWidget widget) → Frees s (.widgetEnded id outcome) id

/-- The ways in which a login goes on. -/
inductive Move (s : State) : Event → State → List Effect → Prop where
  /-- No call waits for the event. -/
  | stays {event t} :
    (∀ id entry, event = .call id entry → s.stage? id ≠ none) →
    t.config = s.config → t.phase = s.phase → t.registered = s.registered →
    (∀ id, t.stage? id = s.stage? id) →
    Move s event t []
  /-- Another call was faster. -/
  | superseded {event id t} :
    Frees s event id →
    (∀ id entry, event = .call id entry → s.phase ≠ .idle) →
    (∀ id outcome, event = .widgetEnded id outcome → s.phase ≠ .starting) →
    s.Reaches t id s.phase (s.left event) (.ended .superseded) →
    Move s event t [.finish id .superseded]
  /-- The first call starts its widget. -/
  | starts {id entry widget handover t} :
    entry.widget? = some widget → s.stage? id = none → s.phase = .idle →
    s.config.handover = .ok handover →
    s.Reaches t id .starting (some widget) (.atWidget widget) →
    Move s (.call id entry) t [.startWidget id widget handover]
  /-- A call takes the login over for an error. -/
  | errs {event id t} :
    Frees s event id → s.phase.isTerminal = false →
    s.Reaches t id .erroring (s.left event) (.atExchange .error) →
    Move s event t [.hook .onError, .beginExchange id .error]
  /-- A call takes the login over for an abort. -/
  | aborts {event id t} :
    Frees s event id → s.phase.isTerminal = false →
    s.Reaches t id .aborting none (.atExchange .abort) →
    Move s event t
      (((s.left event).map .abortWidget).toList ++ [.hook .onError, .beginExchange id .abort])
  /-- The interrupt of a run takes the login over for an abort. -/
  | interrupts {id stage t} :
    s.stage? id = some stage → (∀ ending, stage ≠ .ended ending) → s.phase.isTerminal = false →
    s.Reaches t id .aborting none .interrupted →
    Move s (.interrupt id) t
      ((s.registered.map .abortWidget).toList ++ [.hook .onError, .beginExchange id .abort])
  /-- The widget brought a token. -/
  | succeeds {id widget token t} :
    s.stage? id = some (.atWidget widget) → s.phase = .starting →
    s.Reaches t id .succeeded none (.atExchange (.success token)) →
    Move s (.widgetEnded id (.completed token)) t [.beginExchange id (.success token)]
  /-- A success that was not granted becomes an error. -/
  | fallsBack {id token reply failure t} :
    s.stage? id = some (.atExchange (.success token)) →
    (Exchange.success token).conclude s.config reply = .error failure →
    s.Reaches t id .erroring s.registered (.atExchange .error) →
    Move s (.replied id reply) t [.hook .onError, .beginExchange id .error]
  /-- An exchange brought an assertion. -/
  | arms {id exchange reply assertion t} :
    s.InFlight id exchange → exchange.conclude s.config reply = .ok assertion →
    s.Reaches t id s.phase s.registered (.ended (.returning assertion)) →
    Move s (.replied id reply) t [.armReturn id assertion, .finish id (.returning assertion)]
  /-- An error or an abort was not granted. -/
  | fails {id exchange reply failure t} :
    s.InFlight id exchange → exchange = .error ∨ exchange = .abort →
    exchange.conclude s.config reply = .error failure →
    s.Reaches t id s.phase s.registered (.ended (.failed failure)) →
    Move s (.replied id reply) t [.hook .onReturningFailed, .finish id (.failed failure)]

lemma stage?_eq_none {s : State} {id : CallId} : s.stage? id = none ↔ s.calls id = none := by
  simp [stage?]

lemma ending?_eq_some {s : State} {id : CallId} {ending : Ending} :
    s.ending? id = some ending ↔ s.stage? id = some (.ended ending) := by
  unfold ending?
  split
  · next ended => simp [ended]
  · next other => simpa using fun ended => other ending ended

lemma Reaches.stage_self {s t : State} {id phase registered stage}
    (r : s.Reaches t id phase registered stage) : t.stage? id = some stage := by
  simp [r.stage]

lemma Reaches.stage_other {s t : State} {id other phase registered stage}
    (r : s.Reaches t id phase registered stage) (ne : other ≠ id) :
    t.stage? other = s.stage? other := by
  simp [r.stage, ne]

/-- A stage that a call is at after a move it was moved to, or was at before. -/
lemma Reaches.of_stage {s t : State} {id other phase registered stage stage'}
    (r : s.Reaches t id phase registered stage) (at' : t.stage? other = some stage') :
    stage' = stage ∨ s.stage? other = some stage' := by
  rw [r.stage] at at'
  split at at'
  · exact .inl (Option.some.inj at').symm
  · exact .inr at'

/-- A call is moved after the phase and the registered widget were changed. -/
lemma Reaches.of_moveTo {s u : State} {id : CallId} {stage : Stage}
    (config : u.config = s.config) (stages : ∀ other, u.stage? other = s.stage? other) :
    s.Reaches (u.moveTo id stage) id u.phase u.registered stage where
  config := config
  phase := rfl
  registered := rfl
  stage other := by rw [stage?_moveTo, stages]

/-- Noting an interrupt is no move of its own. -/
lemma Move.mark {s t : State} {event effects} (move : s.Move event t effects) (id : CallId)
    (interrupt : Interrupt) : s.Move event (t.mark id interrupt) effects := by
  have reaches {id' phase registered stage} (r : s.Reaches t id' phase registered stage) :
      s.Reaches (t.mark id interrupt) id' phase registered stage :=
    ⟨r.config, r.phase, r.registered, fun other => (stage?_mark ..).trans (r.stage other)⟩
  cases move with
  | stays made config phase registered stages =>
    exact .stays made config phase registered fun other => (stage?_mark ..).trans (stages other)
  | superseded frees call widget r => exact .superseded frees call widget (reaches r)
  | starts widget fresh phase handover r => exact .starts widget fresh phase handover (reaches r)
  | errs frees phase r => exact .errs frees phase (reaches r)
  | aborts frees phase r => exact .aborts frees phase (reaches r)
  | interrupts waits pending phase r => exact .interrupts waits pending phase (reaches r)
  | succeeds waits phase r => exact .succeeds waits phase (reaches r)
  | fallsBack waits concluded r => exact .fallsBack waits concluded (reaches r)
  | arms flight concluded r => exact .arms flight concluded (reaches r)
  | fails flight final concluded r => exact .fails flight final concluded (reaches r)

/-- No move changes the configuration. -/
lemma Move.config {s t : State} {event effects} (move : s.Move event t effects) :
    t.config = s.config := by
  cases move with
  | stays _ config => exact config
  | superseded _ _ _ r | starts _ _ _ _ r | errs _ _ r | aborts _ _ r | interrupts _ _ _ r
  | succeeds _ _ r | fallsBack _ _ r | arms _ _ r | fails _ _ _ r => exact r.config

/-- The call that an event frees is the one that it is about. -/
lemma Frees.caller {s : State} {event : Event} {id : CallId} (frees : s.Frees event id) : event.caller = id := by
  cases frees <;> rfl

/-- An event moves no call but its own. -/
lemma Move.stage_other {s t : State} {event effects} {id : CallId} (move : s.Move event t effects)
    (other : id ≠ event.caller) : t.stage? id = s.stage? id := by
  cases move with
  | stays _ _ _ _ stages => exact stages id
  | superseded frees _ _ r | errs frees _ r | aborts frees _ r =>
    exact r.stage_other (frees.caller ▸ other)
  | starts _ _ _ _ r | interrupts _ _ _ r | succeeds _ _ r | fallsBack _ _ r | arms _ _ r
  | fails _ _ _ r => exact r.stage_other other

/-- An event ends no call but its own. -/
lemma Move.finishes {s t : State} {event effects} {id : CallId} {ending : Ending}
    (move : s.Move event t effects) (ends : .finish id ending ∈ effects) : id = event.caller := by
  cases move with
  | superseded frees =>
    obtain ⟨rfl, rfl⟩ : _ ∧ _ := by simpa using ends
    exact frees.caller.symm
  | arms | fails =>
    obtain ⟨rfl, rfl⟩ : _ ∧ _ := by simpa using ends
    rfl
  | _ => simp at ends

/-- A login that was taken over stays taken over, and registers no widget again. -/
lemma Move.terminal {s t : State} {event effects} (move : s.Move event t effects)
    (terminal : s.phase.isTerminal = true) (unregistered : s.registered = none) :
    t.phase.isTerminal = true ∧ t.registered = none := by
  have left : s.left event = none := by cases event <;> simp [left, unregistered]
  cases move with
  | stays _ _ phase registered => exact ⟨phase ▸ terminal, registered.trans unregistered⟩
  | superseded _ _ _ r => exact ⟨r.phase ▸ terminal, r.registered.trans left⟩
  | starts _ _ idle => simp [idle, Phase.isTerminal] at terminal
  | errs _ nonterminal | aborts _ nonterminal | interrupts _ _ nonterminal =>
    simp [nonterminal] at terminal
  | succeeds _ starting => simp [starting, Phase.isTerminal] at terminal
  | fallsBack _ _ r => exact ⟨by rw [r.phase]; rfl, r.registered.trans unregistered⟩
  | arms _ _ r | fails _ _ _ r => exact ⟨r.phase ▸ terminal, r.registered.trans unregistered⟩

/-- A call that waits for a widget was at it before, or has just started it. -/
lemma Move.of_atWidget {s t : State} {event effects} {id : CallId} {widget : WidgetId}
    (move : s.Move event t effects) (waits : t.stage? id = some (.atWidget widget)) :
    s.stage? id = some (.atWidget widget) ∨
      ∃ handover, s.config.handover = .ok handover ∧ .startWidget id widget handover ∈ effects := by
  cases move with
  | stays _ _ _ _ stages => exact .inl ((stages id).symm.trans waits)
  | @starts runner _ _ handover _ runs fresh idle given r =>
    by_cases same : id = runner
    · subst same
      rw [r.stage_self] at waits
      cases waits
      exact .inr ⟨handover, given, List.mem_singleton_self _⟩
    · exact .inl ((r.stage_other same).symm.trans waits)
  | superseded _ _ _ r | errs _ _ r | aborts _ _ r | interrupts _ _ _ r
  | succeeds _ _ r | fallsBack _ _ r | arms _ _ r | fails _ _ _ r =>
    obtain other | before := r.of_stage waits
    · cases other
    · exact .inl before

/-- A success is asked for by a call whose widget brought the token. -/
lemma Move.of_begins_success {s t : State} {event effects} {id : CallId} {token : String}
    (move : s.Move event t effects) (begins : .beginExchange id (.success token) ∈ effects) :
    event = .widgetEnded id (.completed token) ∧ ∃ widget, s.stage? id = some (.atWidget widget) := by
  cases move with
  | @succeeds _ widget _ _ waits =>
    obtain ⟨rfl, rfl⟩ : _ ∧ _ := by simpa using begins
    exact ⟨rfl, widget, waits⟩
  | _ => simp at begins

/-- An error is asked for by a call that takes the login over, or after a success was not granted. -/
lemma Move.of_begins_error {s t : State} {event effects} {id : CallId}
    (move : s.Move event t effects) (begins : .beginExchange id .error ∈ effects) :
    s.phase.isTerminal = false ∨
      ∃ token reply failure, event = .replied id reply ∧
        s.stage? id = some (.atExchange (.success token)) ∧
        (Exchange.success token).conclude s.config reply = .error failure := by
  cases move with
  | errs _ nonterminal | aborts _ nonterminal | interrupts _ _ nonterminal => exact .inl nonterminal
  | @fallsBack _ token reply failure _ waits refused =>
    obtain rfl : id = _ := by simpa using begins
    exact .inr ⟨token, reply, failure, rfl, waits, refused⟩
  | _ => simp at begins

section Calls

variable {s u : State} {event : Event} {id : CallId} (frees : s.Frees event id)
  (config : u.config = s.config) (stages : ∀ other, u.stage? other = s.stage? other)
  (registered : u.registered = s.left event)
include frees config stages registered

/-- A call that comes too late is superseded. -/
lemma finish_move (phase : u.phase = s.phase)
    (call : ∀ id entry, event = .call id entry → s.phase ≠ .idle)
    (widget : ∀ id outcome, event = .widgetEnded id outcome → s.phase ≠ .starting) :
    s.Move event (u.finish id .superseded).1 (u.finish id .superseded).2 := by
  refine .superseded frees call widget ?_
  rw [← phase, ← registered]
  exact .of_moveTo config stages

/-- The error exchange is begun by the call that takes the login over. -/
lemma returnWithError_move (nonterminal : s.phase.isTerminal = false) :
    s.Move event (u.returnWithError id).1 (u.returnWithError id).2 := by
  refine .errs frees nonterminal ?_
  rw [← registered]
  exact .of_moveTo (u := { u with phase := .erroring }) config stages

/-- A call for an error is superseded or takes the login over. -/
lemma handleError_move (phase : u.phase = s.phase) :
    s.Move event (u.handleError id).1 (u.handleError id).2 := by
  unfold handleError
  split
  · next terminal =>
    rw [phase] at terminal
    obtain ⟨idle, starting⟩ := Phase.isTerminal_ne terminal
    exact finish_move frees config stages registered phase (fun _ _ _ => idle) fun _ _ _ => starting
  · next nonterminal =>
    rw [phase] at nonterminal
    exact returnWithError_move frees config stages registered (by simpa using nonterminal)

/-- A call for an abort is superseded or takes the login over. -/
lemma abort_move (phase : u.phase = s.phase) :
    s.Move event (u.abort id).1 (u.abort id).2 := by
  unfold abort
  split
  · next terminal =>
    rw [phase] at terminal
    obtain ⟨idle, starting⟩ := Phase.isTerminal_ne terminal
    exact finish_move frees config stages registered phase (fun _ _ _ => idle) fun _ _ _ => starting
  · next nonterminal =>
    rw [phase] at nonterminal
    unfold returnWithAbort
    rw [registered]
    refine .aborts frees (by simpa using nonterminal) ?_
    exact .of_moveTo (u := { u with phase := .aborting, registered := none }) config stages

end Calls

/-- A call that runs a widget starts it if it is the first one. -/
lemma start_move {s : State} {id : CallId} {entry : Entry} {widget : WidgetId}
    (runs : entry.widget? = some widget) (fresh : s.stage? id = none) :
    s.Move (.call id entry) (s.start id widget).1 (s.start id widget).2 := by
  unfold start
  split
  · next started =>
    exact finish_move (.call fresh) rfl (fun _ => rfl) rfl rfl (fun _ _ _ => started) nofun
  · next idle =>
    have idle : s.phase = .idle := by simpa using idle
    dsimp only
    split
    · -- the phase in between is never seen: the call goes on to the error at once
      have frees : s.Frees (.call id entry) id := .call fresh
      exact returnWithError_move (u := { s with phase := .starting }) frees rfl (fun _ => rfl) rfl
        (by rw [idle]; rfl)
    · next handover given =>
      exact .starts runs fresh idle given
        (.of_moveTo (u := { s with phase := .starting, registered := some widget }) rfl fun _ => rfl)

/-- A new call makes a move. -/
lemma enter_move {s : State} {id : CallId} (entry : Entry) (fresh : s.stage? id = none) :
    s.Move (.call id entry) (s.enter id entry).1 (s.enter id entry).2 := by
  cases entry with
  | start widget => exact start_move rfl fresh
  | run widget => exact (start_move rfl fresh).mark id .open
  | handleError => exact handleError_move (.call fresh) rfl (fun _ => rfl) rfl rfl
  | abort => exact abort_move (.call fresh) rfl (fun _ => rfl) rfl rfl

/-- A call whose widget ended makes a move. -/
lemma widgetEnded_move {s : State} {id : CallId} {widget : WidgetId} (outcome : Widget.Outcome)
    (waits : s.stage? id = some (.atWidget widget)) :
    s.Move (.widgetEnded id outcome) (s.widgetEnded id outcome).1 (s.widgetEnded id outcome).2 := by
  cases outcome with
  | completed token =>
    unfold widgetEnded
    dsimp only
    split
    · next starting =>
      exact .succeeds waits starting
        (.of_moveTo (u := { s with phase := .succeeded, registered := none }) rfl fun _ => rfl)
    · next claimed =>
      exact finish_move (u := { s with registered := none }) (.widgetEnded waits) rfl (fun _ => rfl)
        rfl rfl nofun fun _ _ _ => claimed
  | failed reason =>
    exact handleError_move (u := { s with registered := none }) (.widgetEnded waits) rfl
      (fun _ => rfl) rfl rfl
  | aborted =>
    exact abort_move (u := { s with registered := none }) (.widgetEnded waits) rfl
      (fun _ => rfl) rfl rfl

/-- A call whose exchange was replied to makes a move. -/
lemma replied_move {s : State} {id : CallId} {exchange : Exchange} (reply : Http.Reply)
    (flight : s.InFlight id exchange) :
    s.Move (.replied id reply) (s.replied id exchange reply).1 (s.replied id exchange reply).2 := by
  unfold replied
  split
  · next assertion concluded => exact .arms flight concluded (.of_moveTo rfl fun _ => rfl)
  · next failure concluded =>
    split
    · next token =>
      obtain waits | ⟨abort, -⟩ := flight
      · exact .fallsBack waits concluded
          (.of_moveTo (u := { s with phase := .erroring }) rfl fun _ => rfl)
      · cases abort
    · exact .fails flight (.inl rfl) concluded (.of_moveTo rfl fun _ => rfl)
    · exact .fails flight (.inr rfl) concluded (.of_moveTo rfl fun _ => rfl)

/-- An interrupt of a run that did not end makes a move. -/
lemma interrupt_move {s : State} {id : CallId} {stage : Stage} (waits : s.stage? id = some stage)
    (pending : ∀ ending, stage ≠ .ended ending) :
    s.Move (.interrupt id) (s.interrupt id).1 (s.interrupt id).2 := by
  unfold interrupt
  dsimp only
  split
  · exact .stays nofun rfl rfl rfl fun other => stage?_mark ..
  · next nonterminal =>
    refine .interrupts waits pending (by simpa using nonterminal) ?_
    exact .of_moveTo (u := { s.mark id .taken with phase := .aborting, registered := none }) rfl
      fun other => stage?_mark ..

/-- Every event is a move. -/
theorem step_move (s : State) (event : Event) : s.Move event (s.step event).1 (s.step event).2 := by
  have stays (made : ∀ id entry, event = .call id entry → s.stage? id ≠ none) :
      s.Move event s [] := .stays made rfl rfl rfl fun _ => rfl
  cases event with
  | call id entry =>
    unfold step
    dsimp only
    split
    · next fresh => exact enter_move entry (stage?_eq_none.2 fresh)
    · next call made =>
      refine stays ?_
      rintro _ _ ⟨⟩
      simp [stage?_eq_none, made]
  | widgetEnded id outcome =>
    unfold step
    dsimp only
    split
    · next waits => exact widgetEnded_move outcome waits
    · exact stays (by simp)
  | replied id reply =>
    unfold step
    dsimp only
    split
    · next waits => exact replied_move reply (.inl waits)
    · next waits => exact replied_move reply (.inr ⟨rfl, waits⟩)
    · exact stays (by simp)
  | interrupt id =>
    unfold step
    dsimp only
    split
    · next widget made =>
      have waits : s.stage? id = some (.atWidget widget) := by simp [stage?, made]
      exact interrupt_move waits (by simp)
    · next exchange made =>
      have waits : s.stage? id = some (.atExchange exchange) := by simp [stage?, made]
      exact interrupt_move waits (by simp)
    · exact stays (by simp)

end State

end DisclosureRelay.Lifecycle
