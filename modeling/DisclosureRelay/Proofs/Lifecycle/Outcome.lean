import DisclosureRelay.Proofs.Lifecycle.Alike
import DisclosureRelay.Proofs.Lifecycle.Standing

/-!
# The text of an outcome

A widget ends with a text: the token of a success, or the reason of a failure. `withoutText` and
`withoutToken` leave that text out of what happens to a login and of what it does. Logins that are
the same but for the tokens that their calls sent do the same but for the token of a success that they
ask for (`Alike.step_text`), and a login asks for one success at most (`successes_done`). A login that was
taken over does not look at the text at all (`step_text_terminal`).
-/

namespace DisclosureRelay.Lifecycle

/-- What a login does, whatever the token is that it sends. -/
def Effect.withoutToken : Effect → Effect
  | .beginExchange id (.success _) => .beginExchange id (.success "")
  | effect => effect

/-- What happens to a login, whatever the text is with which a widget ends. -/
def Event.withoutText : Event → Event
  | .widgetEnded id (.completed _) => .widgetEnded id (.completed "")
  | .widgetEnded id (.failed _) => .widgetEnded id (.failed "")
  | event => event

/-- Calls are the same, or sent two tokens and wait for the same reply. -/
inductive ButToken (id : CallId) : Option Call → Option Call → Prop where
  | same {call} : ButToken id call call
  | sent {interrupt token token'} :
    ButToken id (some ⟨interrupt, .atExchange (.success token)⟩)
      (some ⟨interrupt, .atExchange (.success token')⟩)

namespace ButToken

variable {id : CallId} {call call' call'' : Option Call}

lemma symm (same : ButToken id call call') : ButToken id call' call := by
  cases same with
  | same => exact .same
  | sent => exact .sent

lemma trans (same : ButToken id call call') (same' : ButToken id call' call'') :
    ButToken id call call'' := by
  cases same with
  | same => exact same'
  | sent =>
    cases same' with
    | same => exact .sent
    | sent => exact .sent

/-- What became of the interrupt of a call does not tell of its token. -/
lemma interrupt (same : ButToken id call call') :
    call.map (·.interrupt) = call'.map (·.interrupt) := by
  cases same <;> rfl

end ButToken

namespace State

variable {s t : State} {id : CallId}

lemma Alike.symm_text (alike : s.Alike ButToken t) : t.Alike ButToken s :=
  .of_calls alike.config.symm alike.phase.symm alike.registered.symm fun id => (alike.calls id).symm

lemma Alike.trans_text {u : State} (alike : s.Alike ButToken t) (alike' : t.Alike ButToken u) :
    s.Alike ButToken u :=
  .of_calls (alike'.config.trans alike.config) (alike'.phase.trans alike.phase)
    (alike'.registered.trans alike.registered) fun id => (alike.calls id).trans (alike'.calls id)

/-- The calls stay the same when they go to the same stage. -/
lemma Alike.moved_text (alike : s.Alike ButToken t) (id : CallId) (stage : Stage) :
    ButToken id ((s.moveTo id stage).calls id) ((t.moveTo id stage).calls id) := by
  simp only [moveTo_calls, if_pos, (alike.calls id).interrupt]
  exact .same

lemma Alike.mark_text (alike : s.Alike ButToken t) (id : CallId) (interrupt : Interrupt) :
    (s.mark id interrupt).Alike ButToken (t.mark id interrupt) := by
  refine alike.mark ?_
  simp only [mark_calls, if_pos]
  have same := alike.calls id
  generalize s.calls id = call, t.calls id = call' at same
  cases same with
  | same => exact .same
  | sent => exact .sent

/-- A call is made in both logins or in neither. -/
lemma Alike.made_text (alike : s.Alike ButToken t) (id : CallId) :
    s.calls id = none ↔ t.calls id = none := by
  have same := alike.calls id
  generalize s.calls id = call, t.calls id = call' at same
  cases same <;> simp

/-- Calls wait for the same, or for the reply to two successes. -/
lemma Alike.stage?_text (alike : s.Alike ButToken t) (id : CallId) :
    t.stage? id = s.stage? id ∨ ∃ token token', s.stage? id = some (.atExchange (.success token)) ∧
      t.stage? id = some (.atExchange (.success token')) := by
  have same := alike.calls id
  unfold stage?
  generalize s.calls id = call, t.calls id = call' at same
  cases same with
  | same => exact .inl rfl
  | sent => exact .inr ⟨_, _, rfl, rfl⟩

/-- Calls end the same way, whatever the tokens are that they sent. -/
lemma Alike.ending?_text (alike : s.Alike ButToken t) (id : CallId) : t.ending? id = s.ending? id := by
  unfold ending?
  obtain same | ⟨_, _, waits, waits'⟩ := alike.stage?_text id
  · rw [same]
  · rw [waits, waits']

lemma Alike.enter_text (alike : s.Alike ButToken t) (entry : Entry) :
    Agree ButToken (s.enter id entry) (t.enter id entry) := by
  have moved stage (_ : stage ≠ .interrupted) := alike.moved_text id stage
  cases entry with
  | start widget => exact alike.start moved widget
  | run widget =>
    obtain ⟨next, effects⟩ := alike.start moved widget
    exact ⟨next.mark_text id .open, effects⟩
  | handleError => exact alike.handleError moved
  | abort => exact alike.abort moved

/-- An event does the same whatever the tokens are that the calls sent. -/
lemma Alike.step_sent (alike : s.Alike ButToken t) (event : Event) :
    Agree ButToken (s.step event) (t.step event) := by
  cases event with
  | call id entry =>
    have made := alike.made_text id
    unfold step
    dsimp only
    split
    · next fresh =>
      rw [made.1 fresh]
      exact alike.enter_text entry
    · next there =>
      split
      · next fresh => simp [made.2 fresh] at there
      · exact ⟨alike, rfl⟩
  | widgetEnded id outcome =>
    obtain waits | ⟨_, _, waits, waits'⟩ := alike.stage?_text id
    · exact alike.step_waiting waits (fun stage _ => alike.moved_text _ stage) (by simp) (by simp)
    · simp only [step, waits, waits']
      exact ⟨alike, rfl⟩
  | replied id reply =>
    obtain waits | ⟨_, token, waits, waits'⟩ := alike.stage?_text id
    · exact alike.step_waiting waits (fun stage _ => alike.moved_text _ stage) (by simp) (by simp)
    · -- what the reply means does not depend on the token that was sent
      simp only [step, waits, waits']
      exact alike.replied (fun stage _ => alike.moved_text id stage) (.success token) reply
  | interrupt id =>
    have same := alike.calls id
    have marked := alike.mark_text id .taken
    have interrupted : Agree ButToken (s.interrupt id) (t.interrupt id) := by
      unfold State.interrupt
      dsimp only
      rw [marked.phase]
      split
      · exact ⟨marked, rfl⟩
      · exact marked.returnWithAbort (marked.moved_text id .interrupted)
    unfold step
    dsimp only
    generalize s.calls id = call, t.calls id = call' at same
    cases same with
    | same =>
      split
      · exact interrupted
      · exact interrupted
      · exact ⟨alike, rfl⟩
    | @sent interrupt =>
      cases interrupt with
      | «open» => exact interrupted
      | none | taken => exact ⟨alike, rfl⟩

/-- A login does the same whatever the text is with which a widget ends, but for a token that it
sends. -/
lemma step_text (s : State) (event : Event) :
    (s.step event).1.Alike ButToken (s.step event.withoutText).1 ∧
      (s.step event).2.map Effect.withoutToken =
        (s.step event.withoutText).2.map Effect.withoutToken := by
  have itself {out : Outgoing} : out.1.Alike ButToken out.1 ∧
      out.2.map Effect.withoutToken = out.2.map Effect.withoutToken :=
    ⟨.intro _ fun _ => .same, rfl⟩
  cases event with
  | widgetEnded id outcome =>
    cases outcome with
    | completed token =>
      simp only [step, Event.withoutText]
      split
      · unfold widgetEnded
        dsimp only
        split
        · refine ⟨.intro _ fun other => ?_, rfl⟩
          by_cases own : other = id
          · simp only [moveTo_calls, own, if_pos]
            exact .sent
          · simp only [moveTo_calls, own]
            exact .same
        · exact itself
      · exact itself
    | failed | aborted => exact itself
  | _ => exact itself

/-- Logins that are the same but for the tokens that their calls sent do the same but for a token that
they send, whatever the text is with which a widget ends. -/
theorem Alike.step_text (alike : s.Alike ButToken t) (event : Event) :
    (s.step event).1.Alike ButToken (t.step event.withoutText).1 ∧
      (s.step event).2.map Effect.withoutToken =
        (t.step event.withoutText).2.map Effect.withoutToken := by
  obtain ⟨next, effects⟩ := alike.step_sent event
  obtain ⟨last, more⟩ := t.step_text event
  exact ⟨next.trans_text last, effects ▸ more⟩

/-- A login that was taken over does not look at the text with which a widget ends. -/
lemma step_text_terminal {event : Event}
    (claimed : ∀ id outcome widget, event = .widgetEnded id outcome →
      s.stage? id = some (.atWidget widget) → s.phase.isTerminal = true) :
    s.step event.withoutText = s.step event := by
  cases event with
  | widgetEnded id outcome =>
    cases outcome with
    | completed token =>
      simp only [step, Event.withoutText]
      split
      · next widget waits =>
        obtain ⟨-, started⟩ := Phase.isTerminal_ne (claimed id _ widget rfl waits)
        simp only [widgetEnded, started, if_false]
      · rfl
    | failed | aborted => rfl
  | _ => rfl

end State

/-- Whether a success is asked for. -/
def Effect.asksSuccess : Effect → Bool
  | .beginExchange _ (.success _) => true
  | _ => false

/-- What a login does is told by it without tokens, unless a success is asked for. -/
lemma Effect.eq_of_withoutToken {effect other : Effect}
    (same : effect.withoutToken = other.withoutToken) (silent : effect.asksSuccess = false) :
    effect = other := by
  have kept {effect : Effect} (silent : effect.asksSuccess = false) :
      effect.withoutToken = effect := by
    cases effect with
    | beginExchange id exchange =>
      cases exchange with
      | success => cases silent
      | error | abort => rfl
    | _ => rfl
  have silent' : other.asksSuccess = false := by
    rw [kept silent] at same
    subst same
    cases other with
    | beginExchange id exchange => cases exchange <;> simp_all [withoutToken, asksSuccess]
    | _ => rfl
  rwa [kept silent, kept silent'] at same

/-- What asks for a success and is told the same without tokens asks for a success too. -/
lemma Effect.of_asksSuccess {effect other : Effect}
    (same : effect.withoutToken = other.withoutToken) (asks : effect.asksSuccess = true) :
    ∃ id token token', effect = .beginExchange id (.success token) ∧
      other = .beginExchange id (.success token') := by
  cases effect with
  | beginExchange id exchange =>
    cases exchange with
    | success token =>
      cases other with
      | beginExchange id' exchange' =>
        cases exchange' with
        | success token' =>
          cases same
          exact ⟨id, token, token', rfl, rfl⟩
        | error | abort => cases same
      | _ => cases same
    | error | abort => cases asks
  | _ => cases asks

/-- Of the exchanges of a login that is taken over one at most is a success. -/
lemma Claims.successes {phase : Phase} {begun : List Exchange} {exchange : Exchange}
    (claims : Claims phase begun exchange) :
    (begun.countP fun exchange => exchange ≠ .error ∧ exchange ≠ .abort) ≤ 1 := by
  cases claims <;> simp

/-- A login asks for one success at most. -/
lemma successes_done (config : Session.Config) (events : List Event) :
    (done config events).countP Effect.asksSuccess ≤ 1 := by
  have counts (effects : List Effect) : effects.countP Effect.asksSuccess =
      (exchanges effects).countP fun exchange => exchange ≠ .error ∧ exchange ≠ .abort := by
    unfold exchanges
    rw [List.countP_filterMap]
    congr
    funext effect
    cases effect with
    | beginExchange id exchange => cases exchange <;> rfl
    | _ => rfl
  rw [counts]
  have standing := standing_reached config events
  generalize exchanges (done config events) = begun, armedReturns (done config events) = armed,
    decidedCalls (done config events) = decided at standing
  cases standing with
  | idle | starting => simp
  | owned claims => exact claims.successes

end DisclosureRelay.Lifecycle
