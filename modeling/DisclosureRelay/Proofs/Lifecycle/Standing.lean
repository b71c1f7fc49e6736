import DisclosureRelay.Proofs.Lifecycle.Inversion
import Mathlib.Data.List.Induction

/-!
# How a login stands

`Standing` ties the state of a login to its history: before anything was called nothing is
begun; while it starts there is one call at its widget and the rest is superseded; and once it is
taken over there is one owner, which is at the last exchange that was begun or ended with what
that exchange came to, while every other call stands aside. `Standing.step` shows that every move
keeps this, and `standing_reached` that it holds after every row of events.
-/

namespace DisclosureRelay.Lifecycle

/-- The exchanges that were begun when a login is taken over, and the last one of them. -/
inductive Claims : Phase → List Exchange → Exchange → Prop where
  | success {token} : Claims .succeeded [.success token] (.success token)
  | fallback {token} : Claims .erroring [.success token, .error] .error
  | error : Claims .erroring [.error] .error
  | abort : Claims .aborting [.abort] .abort

/-- How far the owner of a login is with its last exchange: its stage, the returns that were armed,
and the calls that were decided. -/
inductive Settles (Result : Exchange → Except Failure Assertion → Prop) (owner : CallId) :
    Exchange → Stage → List Assertion → List (CallId × Ending) → Prop where
  | waits {exchange} : Settles Result owner exchange (.atExchange exchange) [] []
  | interrupted : Settles Result owner .abort .interrupted [] []
  | returning {exchange assertion} :
    Result exchange (.ok assertion) →
    Settles Result owner exchange (.ended (.returning assertion)) [assertion]
      [(owner, .returning assertion)]
  | failed {exchange failure} :
    exchange = .error ∨ exchange = .abort → Result exchange (.error failure) →
    Settles Result owner exchange (.ended (.failed failure)) [] [(owner, .failed failure)]

/-- A call that returns nobody: its widget may still run, or it was superseded. -/
inductive Stage.Aside : Stage → Prop where
  | atWidget {widget} : Aside (.atWidget widget)
  | superseded : Aside (.ended .superseded)

/-- How a login stands, with the exchanges that were begun, the returns that were armed and the
calls that were decided. -/
inductive Standing (Result : Exchange → Except Failure Assertion → Prop) (s : State) :
    List Exchange → List Assertion → List (CallId × Ending) → Prop where
  | idle :
    s.phase = .idle → s.registered = none → (∀ id, s.stage? id = none) →
    Standing Result s [] [] []
  | starting {runner widget} :
    s.phase = .starting → s.registered = some widget →
    s.stage? runner = some (.atWidget widget) →
    (∀ other stage, other ≠ runner → s.stage? other = some stage → stage = .ended .superseded) →
    Standing Result s [] [] []
  | owned {owner exchange stage begun armed decided} :
    Claims s.phase begun exchange → s.stage? owner = some stage →
    Settles Result owner exchange stage armed decided →
    (∀ other stage, other ≠ owner → s.stage? other = some stage → stage.Aside) →
    Standing Result s begun armed decided

variable {Result : Exchange → Except Failure Assertion → Prop} {s t : State}
  {begun : List Exchange} {armed : List Assertion} {decided : List (CallId × Ending)}

/-- A login that is owned is in a terminal phase. -/
lemma Claims.isTerminal {phase : Phase} {exchange : Exchange} (claims : Claims phase begun exchange) :
    phase.isTerminal = true := by
  cases claims <;> rfl

/-- A login whose last exchange is a success was not refused yet. -/
lemma Claims.of_success {phase : Phase} {token : String}
    (claims : Claims phase begun (.success token)) :
    phase = .succeeded ∧ begun = [.success token] := by
  cases claims
  exact ⟨rfl, rfl⟩

/-- What an owner waits for is its last exchange. -/
lemma Settles.of_inFlight {owner : CallId} {exchange : Exchange} {stage : Stage} {flying : Exchange}
    (settles : Settles Result owner exchange stage armed decided)
    (at' : s.stage? owner = some stage) (flight : s.InFlight owner flying) :
    exchange = flying ∧ armed = [] ∧ decided = [] := by
  unfold State.InFlight at flight
  rw [at'] at flight
  cases settles with
  | waits => simpa using flight
  | interrupted => simpa [eq_comm] using flight
  | returning => simp at flight
  | failed => simp at flight

/-- A login as it stands knows no more after more became known. -/
lemma Settles.mono {Result' : Exchange → Except Failure Assertion → Prop} {owner : CallId}
    {exchange : Exchange} {stage : Stage}
    (settles : Settles Result owner exchange stage armed decided)
    (more : ∀ exchange result, Result exchange result → Result' exchange result) :
    Settles Result' owner exchange stage armed decided := by
  cases settles with
  | waits => exact .waits
  | interrupted => exact .interrupted
  | returning concluded => exact .returning (more _ _ concluded)
  | failed final concluded => exact .failed final (more _ _ concluded)

namespace Standing

/-- Before a login is taken over nothing was begun, and every call stands aside. -/
lemma of_nonterminal (standing : Standing Result s begun armed decided)
    (nonterminal : s.phase.isTerminal = false) :
    begun = [] ∧ armed = [] ∧ decided = [] ∧
      ∀ id stage, s.stage? id = some stage → stage.Aside := by
  cases standing with
  | idle phase registered none => simp [none]
  | @starting runner widget phase registered runs rest =>
    refine ⟨rfl, rfl, rfl, fun id stage at' => ?_⟩
    by_cases same : id = runner
    · rw [same, runs] at at'
      cases at'
      exact .atWidget
    · rw [rest id stage same at']
      exact .superseded
  | owned claims => simp [claims.isTerminal] at nonterminal

/-- Before a login is taken over, a call that did not end is at the widget that is registered. -/
lemma of_pending (standing : Standing Result s begun armed decided)
    (nonterminal : s.phase.isTerminal = false) {id : CallId} {stage : Stage}
    (at' : s.stage? id = some stage) (pending : ∀ ending, stage ≠ .ended ending) :
    ∃ widget, stage = .atWidget widget ∧ s.registered = some widget := by
  cases standing with
  | idle _ _ none => simp [none] at at'
  | @starting runner widget _ registered runs rest =>
    by_cases same : id = runner
    · rw [same, runs] at at'
      cases at'
      exact ⟨widget, rfl, registered⟩
    · exact absurd (rest id stage same at') (pending _)
  | owned claims => simp [claims.isTerminal] at nonterminal

/-- In the first phase no call was made. -/
lemma of_idle (standing : Standing Result s begun armed decided) (idle : s.phase = .idle) (id : CallId) :
    s.stage? id = none := by
  cases standing with
  | idle _ _ none => exact none id
  | starting starting => simp [idle] at starting
  | owned claims =>
    have terminal := claims.isTerminal
    simp [idle, Phase.isTerminal] at terminal

/-- The call whose exchange is in flight owns the login. -/
lemma of_inFlight (standing : Standing Result s begun armed decided) {id : CallId}
    {exchange : Exchange} (flight : s.InFlight id exchange) :
    Claims s.phase begun exchange ∧ armed = [] ∧ decided = [] ∧
      ∀ other stage, other ≠ id → s.stage? other = some stage → stage.Aside := by
  cases standing with
  | idle phase registered none => simp [State.InFlight, none] at flight
  | @starting runner widget phase registered runs rest =>
    by_cases same : id = runner
    · subst same
      simp [State.InFlight, runs] at flight
    · obtain waits | ⟨-, waits⟩ := flight
      · cases rest id _ same waits
      · cases rest id _ same waits
  | @owned owner last stage _ _ _ claims at' settles rest =>
    by_cases same : id = owner
    · subst same
      obtain ⟨rfl, rfl, rfl⟩ := settles.of_inFlight at' flight
      exact ⟨claims, rfl, rfl, rest⟩
    · obtain waits | ⟨-, waits⟩ := flight
      · cases rest id _ same waits
      · cases rest id _ same waits

/-- A login stands the same way when nothing of it changed. -/
lemma stays (standing : Standing Result s begun armed decided) (phase : t.phase = s.phase)
    (registered : t.registered = s.registered) (stages : ∀ id, t.stage? id = s.stage? id) :
    Standing Result t begun armed decided := by
  cases standing with
  | idle idle unregistered none =>
    exact .idle (phase.trans idle) (registered.trans unregistered) fun id => (stages id).trans (none id)
  | starting starting widget runs rest =>
    refine .starting (phase.trans starting) (registered.trans widget) ((stages _).trans runs) ?_
    intro other stage ne at'
    exact rest other stage ne ((stages other).symm.trans at')
  | owned claims at' settles rest =>
    refine .owned (phase ▸ claims) ((stages _).trans at') settles ?_
    intro other stage ne at'
    exact rest other stage ne ((stages other).symm.trans at')

/-- The owner of a login goes to another stage, or another call becomes the owner. -/
lemma of_reaches {id : CallId} {phase : Phase} {registered : Option WidgetId} {stage : Stage}
    {exchange : Exchange} (reaches : s.Reaches t id phase registered stage)
    (claims : Claims phase begun exchange)
    (settles : Settles Result id exchange stage armed decided)
    (rest : ∀ other stage, other ≠ id → s.stage? other = some stage → stage.Aside) :
    Standing Result t begun armed decided := by
  refine .owned (reaches.phase ▸ claims) reaches.stage_self settles ?_
  intro other stage ne at'
  rw [reaches.stage_other ne] at at'
  exact rest other stage ne at'

/-- A login that nobody took over yet is taken over. -/
lemma takenOver (standing : Standing Result s begun armed decided)
    (nonterminal : s.phase.isTerminal = false) {id : CallId} {phase : Phase}
    {registered : Option WidgetId} {stage : Stage} {exchange : Exchange}
    (reaches : s.Reaches t id phase registered stage) (claims : Claims phase [exchange] exchange)
    (settles : Settles Result id exchange stage [] []) :
    Standing Result t (begun ++ [exchange]) armed decided := by
  obtain ⟨rfl, rfl, rfl, aside⟩ := standing.of_nonterminal nonterminal
  exact of_reaches reaches claims settles fun other stage _ => aside other stage

/-- A call that comes too late stands aside. -/
lemma superseded (standing : Standing Result s begun armed decided) {event : Event} {id : CallId}
    (frees : s.Frees event id)
    (call : ∀ id entry, event = .call id entry → s.phase ≠ .idle)
    (widget : ∀ id outcome, event = .widgetEnded id outcome → s.phase ≠ .starting)
    (reaches : s.Reaches t id s.phase (s.left event) (.ended .superseded)) :
    Standing Result t begun armed decided := by
  cases standing with
  | idle idle _ none =>
    cases frees with
    | call _ => exact absurd idle (call _ _ rfl)
    | widgetEnded waits => simp [none] at waits
  | @starting runner given starting registered runs rest =>
    cases frees with
    | call fresh =>
      have ne : runner ≠ id := by
        rintro rfl
        simp [runs] at fresh
      refine .starting (reaches.phase.trans starting) (reaches.registered.trans registered)
        ((reaches.stage_other ne).trans runs) ?_
      intro other stage _ at'
      by_cases same : other = id
      · rw [same, reaches.stage_self] at at'
        exact (Option.some.inj at').symm
      · rw [reaches.stage_other same] at at'
        exact rest other stage ‹_› at'
    | widgetEnded _ => exact absurd starting (widget _ _ rfl)
  | @owned owner exchange stage _ _ _ claims at' settles rest =>
    -- the owner is past its widget, so that it is another call that comes too late
    have ne : owner ≠ id := by
      rintro rfl
      cases frees with
      | call fresh => simp [at'] at fresh
      | widgetEnded waits =>
        rw [at'] at waits
        cases waits
        cases settles
    refine .owned (reaches.phase ▸ claims) ((reaches.stage_other ne).trans at') settles ?_
    intro other stage _ at'
    by_cases same : other = id
    · rw [same, reaches.stage_self] at at'
      cases at'
      exact .superseded
    · rw [reaches.stage_other same] at at'
      exact rest other stage ‹_› at'

/-- What became known besides makes no difference to how a login stands. -/
lemma mono {Result' : Exchange → Except Failure Assertion → Prop}
    (standing : Standing Result s begun armed decided)
    (more : ∀ exchange result, Result exchange result → Result' exchange result) :
    Standing Result' s begun armed decided := by
  cases standing with
  | idle phase registered none => exact .idle phase registered none
  | starting phase registered runs rest => exact .starting phase registered runs rest
  | owned claims at' settles rest => exact .owned claims at' (settles.mono more) rest

/-- Every move keeps how a login stands, once it is known what the reply in it means. -/
theorem step {event : Event} {effects : List Effect}
    (standing : Standing Result s begun armed decided) (move : s.Move event t effects)
    (replied : ∀ id exchange reply, event = .replied id reply → s.InFlight id exchange →
      Result exchange (exchange.conclude s.config reply)) :
    Standing Result t (begun ++ exchanges effects) (armed ++ armedReturns effects)
      (decided ++ decidedCalls effects) := by
  cases move with
  | stays _ _ phase registered stages => simpa using standing.stays phase registered stages
  | superseded frees call widget reaches => simpa using standing.superseded frees call widget reaches
  | starts runs fresh idle handover reaches =>
    have nonterminal : s.phase.isTerminal = false := by rw [idle]; rfl
    obtain ⟨rfl, rfl, rfl, -⟩ := standing.of_nonterminal nonterminal
    refine .starting reaches.phase reaches.registered reaches.stage_self ?_
    intro other stage ne at'
    simp [reaches.stage_other ne, standing.of_idle idle] at at'
  | errs frees nonterminal reaches =>
    simpa using standing.takenOver nonterminal reaches .error .waits
  | aborts frees nonterminal reaches =>
    simpa using standing.takenOver nonterminal reaches .abort .waits
  | interrupts waits pending nonterminal reaches =>
    simpa using standing.takenOver nonterminal reaches .abort .interrupted
  | succeeds waits starting reaches =>
    have nonterminal : s.phase.isTerminal = false := by rw [starting]; rfl
    simpa using standing.takenOver nonterminal reaches .success .waits
  | fallsBack waits refused reaches =>
    -- the owner stays the owner: nobody else could take the login over meanwhile
    obtain ⟨claims, rfl, rfl, rest⟩ := standing.of_inFlight (.inl waits)
    obtain ⟨-, rfl⟩ := claims.of_success
    simpa using of_reaches reaches .fallback .waits rest
  | @arms id exchange reply assertion _ flight granted reaches =>
    obtain ⟨claims, rfl, rfl, rest⟩ := standing.of_inFlight flight
    have result := replied id exchange reply rfl flight
    rw [granted] at result
    simpa using of_reaches reaches claims (.returning result) rest
  | @fails id exchange reply failure _ flight final refused reaches =>
    obtain ⟨claims, rfl, rfl, rest⟩ := standing.of_inFlight flight
    have result := replied id exchange reply rfl flight
    rw [refused] at result
    simpa using of_reaches reaches claims (.failed final result) rest

end Standing

/-- What is known of an exchange stays known. -/
lemma Concluded.concat {config : Session.Config} {events : List Event} {exchange : Exchange}
    {result : Except Failure Assertion} (concluded : Concluded config events exchange result)
    (event : Event) : Concluded config (events ++ [event]) exchange result := by
  obtain ⟨before, id, reply, after, rfl, flight, means⟩ := concluded
  exact ⟨before, id, reply, after ++ [event], by simp, flight, means⟩

/-- No event changes the configuration. -/
lemma reached_config (config : Session.Config) (events : List Event) :
    (reached config events).config = config := by
  induction events using List.reverseRecOn with
  | nil => rfl
  | append_singleton events event ih =>
    rw [reached_concat]
    exact (State.step_move ..).config.trans ih

/-- A login stands by its history after every row of events. -/
theorem standing_reached (config : Session.Config) (events : List Event) :
    Standing (Concluded config events) (reached config events) (exchanges (done config events))
      (armedReturns (done config events)) (decidedCalls (done config events)) := by
  induction events using List.reverseRecOn with
  | nil => exact .idle rfl rfl fun _ => rfl
  | append_singleton events event ih =>
    rw [reached_concat, done_concat, exchanges_append, armedReturns_append, decidedCalls_append]
    refine Standing.step (ih.mono fun _ _ known => known.concat event) (State.step_move ..) ?_
    rintro id exchange reply rfl flight
    rw [reached_config]
    exact ⟨events, id, reply, [], rfl, flight, rfl⟩

end DisclosureRelay.Lifecycle
