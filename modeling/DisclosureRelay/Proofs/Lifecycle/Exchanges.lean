import DisclosureRelay.Proofs.Lifecycle.Standing

/-!
# The exchanges of a login

However its calls run side by side, a login asks for assertions in one of five ways, and for one at a
time: `ExchangeCourse` lists these ways. An error that comes after a success was asked for once
the success was refused, and a success is asked for with the token that the login's own widget
brought.
-/

namespace DisclosureRelay.Lifecycle

/-- The exchanges that a login begins, in their order. -/
inductive ExchangeCourse : List Exchange → Prop where
  | none : ExchangeCourse []
  | success (token : String) : ExchangeCourse [.success token]
  | fallback (token : String) : ExchangeCourse [.success token, .error]
  | error : ExchangeCourse [.error]
  | abort : ExchangeCourse [.abort]

/-- A login is taken over in one of these ways. -/
lemma Claims.exchangeCourse {phase begun exchange} (claims : Claims phase begun exchange) :
    ExchangeCourse begun := by
  cases claims with
  | success => exact .success _
  | fallback => exact .fallback _
  | error => exact .error
  | abort => exact .abort

/-- A login that stands begins its exchanges in one of these ways. -/
lemma Standing.exchangeCourse {Result s begun armed decided}
    (standing : Standing Result s begun armed decided) : ExchangeCourse begun := by
  cases standing with
  | idle | starting => exact .none
  | owned claims => exact claims.exchangeCourse

/-- Two exchanges in flight are the same one. -/
lemma Standing.inFlight_unique {Result s begun armed decided} {id other : CallId}
    {exchange more : Exchange} (standing : Standing Result s begun armed decided)
    (flight : s.InFlight id exchange) (flight' : s.InFlight other more) :
    id = other ∧ exchange = more := by
  obtain ⟨claims, -, -, rest⟩ := standing.of_inFlight flight
  have same : other = id := by
    by_contra ne
    obtain waits | ⟨-, waits⟩ := flight'
    · cases rest other _ ne waits
    · cases rest other _ ne waits
  subst same
  refine ⟨rfl, ?_⟩
  obtain waits | ⟨rfl, waits⟩ := flight <;> obtain waits' | ⟨rfl, waits'⟩ := flight' <;>
    simp_all

/-- A call that waits for a widget has started it. -/
lemma startWidget_mem_done {config : Session.Config} {events : List Event} {id : CallId}
    {widget : WidgetId} (waits : (reached config events).stage? id = some (.atWidget widget)) :
    ∃ handover, config.handover = .ok handover ∧
      .startWidget id widget handover ∈ done config events := by
  induction events using List.reverseRecOn with
  | nil => cases waits
  | append_singleton events event ih =>
    rw [reached_concat] at waits
    rw [done_concat]
    obtain before | ⟨handover, given, starts⟩ := (State.step_move ..).of_atWidget waits
    · obtain ⟨handover, given, started⟩ := ih before
      exact ⟨handover, given, List.mem_append_left _ started⟩
    · rw [reached_config] at given
      exact ⟨handover, given, List.mem_append_right _ starts⟩

/-- The exchanges of a login. -/
theorem exchanges_of_login (config : Session.Config) (events : List Event) :
    ExchangeCourse (exchanges (done config events)) ∧
      (∀ id other exchange more, (reached config events).InFlight id exchange →
        (reached config events).InFlight other more → id = other ∧ exchange = more) ∧
      (∀ event id token, .beginExchange id .error ∈ ((reached config events).step event).2 →
        exchanges (done config events) = [.success token] →
        ∃ reply failure, event = .replied id reply ∧
          (reached config events).InFlight id (.success token) ∧
          (Exchange.success token).conclude config reply = .error failure) ∧
      (∀ event id token,
        .beginExchange id (.success token) ∈ ((reached config events).step event).2 →
        event = .widgetEnded id (.completed token) ∧
          ∃ widget handover, (reached config events).stage? id = some (.atWidget widget) ∧
            .startWidget id widget handover ∈ done config events) := by
  have standing := standing_reached config events
  refine ⟨standing.exchangeCourse, fun _ _ _ _ => standing.inFlight_unique, ?_, ?_⟩
  · intro event id token begins begun
    obtain nonterminal | ⟨asked, reply, failure, rfl, waits, refused⟩ :=
      (State.step_move ..).of_begins_error begins
    · -- nothing was begun before the login was taken over
      obtain ⟨none, -⟩ := standing.of_nonterminal nonterminal
      rw [begun] at none
      cases none
    · obtain ⟨claims, -⟩ := standing.of_inFlight (.inl waits)
      obtain ⟨-, asked'⟩ := claims.of_success
      obtain rfl : token = asked := by simpa [begun] using asked'
      rw [reached_config] at refused
      exact ⟨reply, failure, rfl, .inl waits, refused⟩
  · intro event id token begins
    obtain ⟨rfl, widget, waits⟩ := (State.step_move ..).of_begins_success begins
    obtain ⟨handover, -, started⟩ := startWidget_mem_done waits
    exact ⟨rfl, widget, handover, waits, started⟩

end DisclosureRelay.Lifecycle
