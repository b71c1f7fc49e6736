import DisclosureRelay.Proofs.Lifecycle.Outcome
import DisclosureRelay.Proofs.Login.Alike
import Mathlib.Data.List.Induction

/-!
# Where the text of an outcome goes

The text with which a widget ends goes into the request for a success and nowhere else. `Surroundings`
are everything around a login: the callers, the widgets, the peer, the clock and the page, which
decide together what happens next. Two surroundings are alike when they do the same wherever only
such texts are different, so that neither looks at the body of a request for a success; a login is then
the same in both but for that one body (`outcome_text_of_login`).
-/

namespace DisclosureRelay

/-- Two rows are the same but for one place at most, at which they are related. -/
def Apart {α : Type} (R : α → α → Prop) (row other : List α) : Prop :=
  row = other ∨ ∃ front a b back, row = front ++ a :: back ∧ other = front ++ b :: back ∧ R a b

namespace Apart

variable {α β : Type} {R : α → α → Prop} {row other : List α}

lemma cons (a : α) (apart : Apart R row other) : Apart R (a :: row) (a :: other) := by
  obtain rfl | ⟨front, b, c, back, rfl, rfl, related⟩ := apart
  · exact .inl rfl
  · exact .inr ⟨a :: front, b, c, back, rfl, rfl, related⟩

lemma mono {R' : α → α → Prop} (weaker : ∀ a b, R a b → R' a b) (apart : Apart R row other) :
    Apart R' row other := by
  obtain same | ⟨front, a, b, back, first, second, related⟩ := apart
  · exact .inl same
  · exact .inr ⟨front, a, b, back, first, second, weaker a b related⟩

/-- A view of rows that are the same but for one place has one place at most that is another. -/
lemma filterMap {R' : β → β → Prop} {view : α → Option β}
    (shows : ∀ a b, R a b → view a = view b ∨
      ∃ x y, view a = some x ∧ view b = some y ∧ R' x y)
    (apart : Apart R row other) : Apart R' (row.filterMap view) (other.filterMap view) := by
  obtain rfl | ⟨front, a, b, back, rfl, rfl, related⟩ := apart
  · exact .inl rfl
  · rw [List.filterMap_append, List.filterMap_append, List.filterMap_cons, List.filterMap_cons]
    obtain same | ⟨x, y, first, second, related⟩ := shows a b related
    · rw [same]
      exact .inl rfl
    · rw [first, second]
      exact .inr ⟨_, x, y, _, rfl, rfl, related⟩

/-- A view that shows nothing of the place shows the same of both rows. -/
lemma filterMap_eq {view : α → Option β} (shows : ∀ a b, R a b → view a = view b)
    (apart : Apart R row other) : row.filterMap view = other.filterMap view := by
  obtain rfl | ⟨front, a, b, back, rfl, rfl, related⟩ := apart
  · rfl
  · rw [List.filterMap_append, List.filterMap_append, List.filterMap_cons, List.filterMap_cons,
      shows a b related]

section Map

variable {view : α → β} {hidden : α → Bool}
  (shown : ∀ a b, view a = view b → hidden a = false → a = b)
  (same : row.map view = other.map view)
include shown same

/-- Rows that look the same are the same where nothing of them is hidden. -/
lemma eq_of_map (plain : row.countP hidden = 0) : row = other := by
  induction row generalizing other with
  | nil => simpa [eq_comm] using same
  | cons a row ih =>
    cases other with
    | nil => simp at same
    | cons b other =>
      obtain ⟨first, rest⟩ := List.cons.inj same
      rw [List.countP_cons] at plain
      have visible : hidden a = false := by
        by_contra secret
        simp [secret] at plain
      rw [shown a b first visible, ih rest (by omega)]

/-- Rows that look the same are the same but for the place at which something is hidden. -/
lemma of_map (once : row.countP hidden ≤ 1) :
    Apart (fun a b => hidden a = true ∧ view a = view b) row other := by
  induction row generalizing other with
  | nil => exact .inl (by simpa [eq_comm] using same)
  | cons a row ih =>
    cases other with
    | nil => simp at same
    | cons b other =>
      obtain ⟨first, rest⟩ := List.cons.inj same
      rw [List.countP_cons] at once
      cases secret : hidden a with
      | true =>
        have rest := eq_of_map shown rest (by simpa [secret] using once)
        exact .inr ⟨[], a, b, row, rfl, by rw [rest]; rfl, secret, first⟩
      | false =>
        rw [shown a b first secret]
        exact (ih rest (by simpa [secret] using once)).cons b

end Map

end Apart

namespace Login

/-- What happens to a login, whatever the text is with which a widget ends. -/
def Event.withoutText : Event → Event :=
  Event.onLifecycle Lifecycle.Event.withoutText

/-- What a login does, whatever the token is that it sends. -/
def Effect.withoutToken : Effect → Effect
  | .lifecycle effect => .lifecycle effect.withoutToken
  | effect => effect

/-- What a login does and when, whatever the token is that it sends. -/
def withoutToken (effects : List (Nat × Effect)) : List (Nat × Effect) :=
  effects.map fun (time, effect) => (time, effect.withoutToken)

/-- What is around a login: it decides what happens next, by what happened and what the login did. -/
abbrev Surroundings := List Event → List (Nat × Effect) → Event

namespace Surroundings

/-- What happens first to a login in its surroundings. -/
def row (around : Surroundings) (login : Login) : Nat → List Event
  | 0 => []
  | count + 1 =>
    let events := around.row login count
    events ++ [around events (login.run events).2]

/-- Where only the texts of outcomes are different, only they are different in what two surroundings
do next. -/
def Alike (one other : Surroundings) : Prop :=
  ∀ events others did does, events.map Event.withoutText = others.map Event.withoutText →
    withoutToken did = withoutToken does →
    (one events did).withoutText = (other others does).withoutText

end Surroundings

/-- Two effects ask for a success at one time, with two tokens. -/
def Sent (timed timed' : Nat × Effect) : Prop :=
  ∃ time id token token', timed = (time, .lifecycle (.beginExchange id (.success token))) ∧
    timed' = (time, .lifecycle (.beginExchange id (.success token')))

/-- Two requests for a success at one time, which are the same but for the token in their bodies. -/
def Asked (config : Session.Config) (timed timed' : Nat × Http.Request) : Prop :=
  ∃ request token token', (Exchange.success token).request config = .ok request ∧
    timed.2 = request ∧
    timed' = (timed.1, { request with body := (Exchange.success token').body config })

/-- Two rows of events are the same to a login but for the texts of outcomes, and what it does is the
same but for a token in the body of one request. -/
structure SameButToken (login : Login) (events others : List Event) : Prop where
  steps : events.map Event.withoutText = others.map Event.withoutText
  effects : Apart Sent (login.run events).2 (login.run others).2
  requests : ∀ postsForms, Apart (Asked login.lifecycle.config)
    (login.requests postsForms (login.run events).2) (login.requests postsForms (login.run others).2)
  phases : login.phases events = login.phases others
  hooks : hooks (login.run events).2 = hooks (login.run others).2
  endings : ∀ id, (login.run events).1.lifecycle.ending? id = (login.run others).1.lifecycle.ending? id
  finished : Lifecycle.finishedCalls (lifecycleEffects (login.run events).2) =
    Lifecycle.finishedCalls (lifecycleEffects (login.run others).2)
  reports : reportEffects (login.run events).2 = reportEffects (login.run others).2
  returns : returnEffects (login.run events).2 = returnEffects (login.run others).2
  schedule : (login.run events).1.schedule = (login.run others).1.schedule
  view : (login.run events).1.view = (login.run others).1.view
  reporter : (login.run events).1.reporter = (login.run others).1.reporter

open Lifecycle (ButToken)

/-- What a login does is told without tokens by a view of the lifecycle. -/
lemma through_withoutToken (effects : List (Nat × Effect)) :
    through (fun effect => some effect.withoutToken) effects = withoutToken effects := by
  rw [through, withoutToken, ← List.filterMap_eq_map]
  congr
  funext entry
  obtain ⟨time, effect⟩ := entry
  cases effect <;> rfl

lemma shows_withoutToken : Shows fun effect => some effect.withoutToken := by
  intro login effect
  cases effect with
  | beginExchange id exchange => cases exchange <;> rfl
  | _ => rfl

/-- A login goes the same way on a row of events and on the row without the texts of outcomes. -/
lemma follows_withoutText (login : Login) (events : List Event) :
    Follows (fun effect => some effect.withoutToken) (Lifecycle.State.Alike ButToken) login login
      events (events.map Event.withoutText) := by
  refine Alike.run Lifecycle.Event.withoutText (fun _ => True) (fun _ => True) shows_withoutToken
    (fun s t event alike _ => ?_) (fun s t id request alike _ _ widget => ?_)
    (fun s t alike => alike.phase.symm) (.intro _ (.intro _ fun _ => .same)) (by simp) (by simp)
  · obtain ⟨next, effects⟩ := alike.step_text event
    exact ⟨next, by simpa only [List.filterMap_eq_map'] using effects⟩
  · obtain same | ⟨_, _, waits, waits'⟩ := alike.stage?_text id
    · rw [same]
    · simp [waits, waits']

/-- Logins that are alike have the same attempts, the same page and the same reporter. -/
lemma Alike.parts {R : Lifecycle.State → Lifecycle.State → Prop} {login other : Login}
    (alike : login.Alike R other) :
    login.schedule = other.schedule ∧ login.view = other.view ∧ login.reporter = other.reporter := by
  cases alike
  exact ⟨rfl, rfl, rfl⟩

/-- Logins that are alike to the same one are alike. -/
lemma Alike.of_common {R R' : Lifecycle.State → Lifecycle.State → Prop} {login other common : Login}
    (alike : login.Alike R common) (alike' : other.Alike R common)
    (related : ∀ s t u, R s u → R t u → R' s t) : login.Alike R' other := by
  cases login
  cases other
  cases alike with
  | intro lifecycle first =>
    cases alike' with
    | intro _ second => exact .intro _ (related _ _ _ first second)

/-- Rows of events that are the same but for the texts of outcomes lead to the same but for tokens. -/
lemma follows_of_withoutText (login : Login) {events others : List Event}
    (same : events.map Event.withoutText = others.map Event.withoutText) :
    (login.run events).1.Alike (Lifecycle.State.Alike ButToken) (login.run others).1 ∧
      withoutToken (login.run events).2 = withoutToken (login.run others).2 ∧
      login.phases events = login.phases others := by
  have first := login.follows_withoutText events
  have second := login.follows_withoutText others
  rw [← same] at second
  refine ⟨?_, ?_, first.phases.trans second.phases.symm⟩
  · exact first.alike.of_common second.alike fun s t u related related' =>
      related.trans_text related'.symm_text
  · rw [← through_withoutToken, ← through_withoutToken, first.effects, second.effects]

/-- Whether a success is asked for. -/
def Effect.asksSuccess : Nat × Effect → Bool
  | (_, .lifecycle effect) => effect.asksSuccess
  | _ => false

/-- A login asks for one success at most. -/
lemma successes_run (config : Session.Config) (settings : Settings) (errorUrl : String)
    (hasError : Bool) (events : List Event) :
    ((initial config settings errorUrl hasError).run events).2.countP Effect.asksSuccess ≤ 1 := by
  have counts (effects : List (Nat × Effect)) : effects.countP Effect.asksSuccess =
      (lifecycleEffects effects).countP Lifecycle.Effect.asksSuccess := by
    rw [lifecycleEffects, List.countP_filterMap]
    congr
    funext entry
    obtain ⟨time, effect⟩ := entry
    cases effect <;> rfl
  have own : lifecycleEffects ((initial config settings errorUrl hasError).run events).2 =
      Lifecycle.done config (lifecycleEvents events) :=
    (run_lifecycle _ events).2
  rw [counts, own]
  exact Lifecycle.successes_done config _

/-- What is told the same without tokens is the same, but for the tokens of a success. -/
lemma Effect.of_withoutToken {effect other : Effect} (time : Nat)
    (same : effect.withoutToken = other.withoutToken) :
    (Effect.asksSuccess (time, effect) = false → effect = other) ∧
      (Effect.asksSuccess (time, effect) = true → Sent (time, effect) (time, other)) := by
  cases effect with
  | lifecycle effect =>
    cases other with
    | lifecycle other =>
      have same : effect.withoutToken = other.withoutToken := Effect.lifecycle.inj same
      refine ⟨fun silent => ?_, fun asks => ?_⟩
      · rw [Lifecycle.Effect.eq_of_withoutToken same silent]
      · obtain ⟨id, token, token', rfl, rfl⟩ := Lifecycle.Effect.of_asksSuccess same asks
        exact ⟨time, id, token, token', rfl, rfl⟩
    | _ => cases same
  | _ =>
    refine ⟨fun _ => ?_, nofun⟩
    cases other with
    | lifecycle => cases same
    | _ => exact same

/-- What is done without tokens is done, but for the token of one success. -/
lemma sent_of_withoutToken {did does : List (Nat × Effect)}
    (same : withoutToken did = withoutToken does) (once : did.countP Effect.asksSuccess ≤ 1) :
    Apart Sent did does := by
  refine (Apart.of_map ?_ same once).mono ?_
  · rintro ⟨time, effect⟩ ⟨time', effect'⟩ same silent
    obtain ⟨rfl, told⟩ : time = time' ∧ effect.withoutToken = effect'.withoutToken :=
      Prod.mk.inj same
    rw [(Effect.of_withoutToken time told).1 silent]
  · rintro ⟨time, effect⟩ ⟨time', effect'⟩ ⟨asks, same⟩
    obtain ⟨rfl, told⟩ : time = time' ∧ effect.withoutToken = effect'.withoutToken :=
      Prod.mk.inj same
    exact (Effect.of_withoutToken time told).2 asks

/-- Two exchanges for a success make the same request but for the token in its body, or none. -/
lemma request_of_success (config : Session.Config) (token token' : String) :
    (Exchange.success token).request config = (Exchange.success token').request config ∨
      ∃ request, (Exchange.success token).request config = .ok request ∧
        (Exchange.success token').request config =
          .ok { request with body := (Exchange.success token').body config } := by
  have endpoint : (Exchange.success token).endpoint config =
      (Exchange.success token').endpoint config := rfl
  unfold Exchange.request Http.postJson Http.prepare
  rw [endpoint]
  split
  · exact .inr ⟨_, rfl, rfl⟩
  · exact .inl rfl

/-- Effects that are the same but for a token make requests that are the same but for a token. -/
lemma requests_apart (login : Login) (postsForms : Bool) {did does : List (Nat × Effect)}
    (apart : Apart Sent did does) :
    Apart (Asked login.lifecycle.config) (login.requests postsForms did)
      (login.requests postsForms does) := by
  refine apart.filterMap ?_
  rintro _ _ ⟨time, id, token, token', rfl, rfl⟩
  obtain same | ⟨request, first, second⟩ := request_of_success login.lifecycle.config token token'
  · exact .inl (by simp only [request?, same])
  · exact .inr ⟨(time, request), _, by simp only [request?, first]; rfl,
      by simp only [request?, second]; rfl, request, token, token', first, rfl, rfl⟩

/-- The call that ends with an effect of a login, and how. -/
def Effect.finished? : Nat × Effect → Option (Lifecycle.CallId × Lifecycle.Ending)
  | (_, .lifecycle effect) => effect.finished?
  | _ => none

/-- Rows of events that are the same but for the texts of outcomes differ in a token at most. -/
theorem sameButToken (config : Session.Config) (settings : Settings) (errorUrl : String)
    (hasError : Bool) {events others : List Event}
    (same : events.map Event.withoutText = others.map Event.withoutText) :
    SameButToken (initial config settings errorUrl hasError) events others := by
  obtain ⟨alike, effects, phases⟩ := follows_of_withoutText _ same
  have apart := sent_of_withoutToken effects (successes_run config settings errorUrl hasError events)
  have parts := alike.parts
  have seen {Seen : Type} {view : Nat × Effect → Option Seen}
      (blind : ∀ time id token token', view (time, .lifecycle (.beginExchange id (.success token))) =
        view (time, .lifecycle (.beginExchange id (.success token')))) :
      ((initial config settings errorUrl hasError).run events).2.filterMap view =
        ((initial config settings errorUrl hasError).run others).2.filterMap view := by
    refine apart.filterMap_eq ?_
    rintro _ _ ⟨time, id, token, token', rfl, rfl⟩
    exact blind time id token token'
  have finished (effects : List (Nat × Effect)) : Lifecycle.finishedCalls (lifecycleEffects effects) =
      effects.filterMap Effect.finished? := by
    rw [Lifecycle.finishedCalls, lifecycleEffects, List.filterMap_filterMap]
    congr
    funext entry
    obtain ⟨time, effect⟩ := entry
    cases effect <;> rfl
  refine ⟨same, apart, fun postsForms => requests_apart _ postsForms apart, phases, ?_, fun id => ?_,
    ?_, ?_, ?_, parts.1, parts.2.1, parts.2.2⟩
  · exact seen fun _ _ _ _ => rfl
  · exact (alike.related.ending?_text id).symm
  · rw [finished, finished]
    exact seen fun _ _ _ _ => rfl
  · exact seen fun _ _ _ _ => rfl
  · exact seen fun _ _ _ _ => rfl

/-- A login that was taken over does the same whatever the text is with which a widget ends. -/
lemma timedStep_withoutText (login : Login) {event : Event}
    (claimed : ∀ id outcome widget, event = .lifecycle (.widgetEnded id outcome) →
      login.lifecycle.stage? id = some (.atWidget widget) →
      login.lifecycle.phase.isTerminal = true) :
    login.timedStep event.withoutText = login.timedStep event := by
  cases event with
  | lifecycle event =>
    have same := login.lifecycle.step_text_terminal fun id outcome widget row =>
      claimed id outcome widget (congrArg Event.lifecycle row)
    simp only [timedStep, step, Event.withoutText, Event.onLifecycle, same]
  | _ => rfl

/-- A widget ends in both of two events that are the same but for the text with which it does. -/
lemma widgetEnded_of_withoutText {event event' : Event} (same : event.withoutText = event'.withoutText)
    {id : Lifecycle.CallId} {outcome : Widget.Outcome}
    (ends : event' = .lifecycle (.widgetEnded id outcome)) :
    ∃ outcome', event = .lifecycle (.widgetEnded id outcome') := by
  subst ends
  cases event with
  | lifecycle event =>
    cases event with
    | widgetEnded id' outcome' =>
      have here : id' = id := by
        cases outcome <;> cases outcome' <;>
          simp_all [Event.withoutText, Event.onLifecycle, Lifecycle.Event.withoutText]
      exact ⟨outcome', here ▸ rfl⟩
    | _ => cases outcome <;> cases same
  | _ => cases outcome <;> cases same

/-- A login that was taken over goes the same way whatever the text is with which a widget ends. -/
theorem run_of_claimed (login : Login) {events others : List Event}
    (same : events.map Event.withoutText = others.map Event.withoutText)
    (claimed : ∀ before id outcome after widget,
      events = before ++ .lifecycle (.widgetEnded id outcome) :: after →
      (login.run before).1.lifecycle.stage? id = some (.atWidget widget) →
      (login.run before).1.lifecycle.phase.isTerminal = true) :
    login.run events = login.run others := by
  induction events using List.reverseRecOn generalizing others with
  | nil => rw [show others = [] by simpa [eq_comm] using same]
  | append_singleton events event ih =>
    rw [List.map_append, eq_comm, List.map_eq_append_iff] at same
    obtain ⟨others, last, rfl, earlier, latest⟩ := same
    obtain ⟨event', rfl, here⟩ := List.map_eq_singleton_iff.1 latest
    have before : login.run events = login.run others :=
      ih earlier.symm fun before id outcome after widget row =>
        claimed before id outcome (after ++ [event]) widget (by simp [row])
    have own : (login.run events).1.timedStep event.withoutText =
        (login.run events).1.timedStep event :=
      timedStep_withoutText _ fun id outcome widget ends =>
        claimed events id outcome [] widget (by rw [ends])
    have own' : (login.run events).1.timedStep event'.withoutText =
        (login.run events).1.timedStep event' :=
      timedStep_withoutText _ fun id outcome widget ends => by
        obtain ⟨outcome', ends⟩ := widgetEnded_of_withoutText here.symm ends
        exact claimed events id outcome' [] widget (by rw [ends])
    have last : (login.run events).1.run [event] = (login.run events).1.run [event'] := by
      have one event : (login.run events).1.run [event] = (login.run events).1.timedStep event :=
        run_one ..
      rw [one, one, ← own, ← own', here]
    rw [run_append, run_append, ← before, last]

/-- What happens in alike surroundings is the same but for the texts of outcomes. -/
lemma Surroundings.Alike.row {one other : Surroundings} (alike : one.Alike other) (login : Login)
    (count : Nat) :
    (one.row login count).map Event.withoutText = (other.row login count).map Event.withoutText := by
  induction count with
  | zero => rfl
  | succ count ih =>
    obtain ⟨-, effects, -⟩ := login.follows_of_withoutText ih
    simp only [Surroundings.row, List.map_append, List.map_cons, List.map_nil, ih,
      alike _ _ _ _ ih effects]

/-- The text with which a widget ends goes nowhere but into the request for a success: in surroundings
that are the same but for such texts a login is the same but for a token in one body, and it is the
same altogether if it was taken over before the widget ended. -/
theorem outcome_text_of_login (config : Session.Config) (settings : Settings) (errorUrl : String)
    (hasError : Bool) (one other : Surroundings) (alike : one.Alike other) (count : Nat) :
    let login := initial config settings errorUrl hasError
    let events := one.row login count
    let others := other.row login count
    SameButToken login events others ∧
      ((∀ before id outcome after widget,
          events = before ++ .lifecycle (.widgetEnded id outcome) :: after →
          (login.run before).1.lifecycle.stage? id = some (.atWidget widget) →
          (login.run before).1.lifecycle.phase.isTerminal = true) →
        login.run events = login.run others) := by
  intro login events others
  have same := alike.row login count
  exact ⟨sameButToken config settings errorUrl hasError same, login.run_of_claimed same⟩

/-- A widget that ends with one of two tokens, of which the peer grants neither. -/
theorem outcome_text_of_login_of_two_tokens :
    let config : Session.Config :=
      { server := "s", assertUrl := "", errorAssertUrl := "", parameters := ""
        session := some { pointer := { address := "irma/session/1", metadata := [] }, token := "t" } }
    let login := initial config {} "" false
    let around (token : String) : Surroundings := fun events _ =>
      match events.length with
      | 0 => .lifecycle (.call 0 (.start 7))
      | 1 => .lifecycle (.widgetEnded 0 (.completed token))
      | _ => .lifecycle (.replied 0 .none)
    (around "one").Alike (around "two") ∧
      SameButToken login ((around "one").row login 3) ((around "two").row login 3) ∧
      Lifecycle.exchanges (lifecycleEffects (login.run ((around "one").row login 3)).2) =
        [.success "one", .error] ∧
      Lifecycle.exchanges (lifecycleEffects (login.run ((around "two").row login 3)).2) =
        [.success "two", .error] := by
  intro config login around
  have alike : (around "one").Alike (around "two") := by
    intro events others did does same _
    have length : events.length = others.length := by simpa using congrArg List.length same
    simp only [around, length]
    split <;> rfl
  exact ⟨alike, (outcome_text_of_login config {} "" false _ _ alike 3).1, rfl, rfl⟩

end Login

end DisclosureRelay
