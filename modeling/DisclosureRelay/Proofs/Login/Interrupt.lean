import DisclosureRelay.Proofs.Lifecycle.Interrupt
import DisclosureRelay.Proofs.Login.Alike

/-!
# The interrupt of a run

A run whose interrupt comes is the same to everybody else as a start and an abort that is called at
that time, and a run whose interrupt never comes is the same as a start. `Interruption` is a row of
events in which a run is interrupted; `interrupted` and `separate` are that row with the run and
with the two calls in its place.
-/

namespace DisclosureRelay.Login

open Lifecycle (Marked Refused Aborted)

/-- A run whose interrupt comes, the abort that is called in its place, and what else happens before
the run, until its interrupt comes and after it. -/
structure Interruption where
  before : List Event
  run : Lifecycle.CallId
  widget : Lifecycle.WidgetId
  meanwhile : List Event
  abort : Lifecycle.CallId
  after : List Event

namespace Interruption

/-- The events up to the interrupt, with the call made as a run or as a start. -/
def opening (x : Interruption) (entry : Lifecycle.Entry) : List Event :=
  x.before ++ .lifecycle (.call x.run entry) :: x.meanwhile

/-- What comes after an abort. If it takes the login over, the replies to the exchange that the run
would begin are replies to the abort. -/
def answered (x : Interruption) (login : Login) : List Event :=
  if login.lifecycle.phase.isTerminal then x.after
  else x.after.map (.onLifecycle (.redirect x.run x.abort))

/-- The run is interrupted. -/
def interrupted (x : Interruption) : List Event :=
  x.opening (.run x.widget) ++ .lifecycle (.interrupt x.run) :: x.after

/-- There is a start and, when the interrupt comes, an abort. -/
def separate (x : Interruption) (login : Login) : List Event :=
  x.opening (.start x.widget) ++ .lifecycle (.call x.abort .abort) ::
    x.answered (login.run (x.opening (.start x.widget))).1

/-- The interrupt is there before the run starts anything. -/
def interruptedAtOnce (x : Interruption) : List Event :=
  x.before ++ .lifecycle (.call x.run .abort) :: x.after

/-- There is an abort and then a start. -/
def separateAtOnce (x : Interruption) (login : Login) : List Event :=
  x.before ++ .lifecycle (.call x.abort .abort) :: .lifecycle (.call x.run (.start x.widget)) ::
    x.answered (login.run x.before).1

end Interruption

/-- A login is alike to itself. -/
lemma Alike.refl (login : Login) : login.Alike (· = ·) login :=
  .intro login.lifecycle rfl

section Runs

variable {login other : Login} {run abort : Lifecycle.CallId} {events : List Event}

/-- A run goes as a start does while its interrupt does not come. -/
lemma Alike.run_marked (alike : login.Alike (Lifecycle.State.Alike (Marked run)) other)
    (once : .lifecycle (.interrupt run) ∉ events) :
    Follows some (Lifecycle.State.Alike (Marked run)) login other events events := by
  have usable event (mem : event ∈ events) : event ≠ .lifecycle (.interrupt run) := by
    rintro rfl
    exact once mem
  have follows := Alike.run id (· ≠ .lifecycle (.interrupt run)) (fun _ => True) shows_some
    (fun s t event alike unnoticed => by
      obtain ⟨next, effects⟩ := Marked.step alike fun same => unnoticed (same ▸ rfl)
      exact ⟨next, congrArg (List.filterMap some) effects⟩)
    (fun s t id request alike _ _ widget => by rw [Marked.stage? alike])
    (fun s t alike => alike.phase.symm) alike usable fun _ _ _ _ => trivial
  rwa [Event.onLifecycle_id, List.map_id] at follows

/-- After its interrupt came to nothing a run goes as the start does. -/
lemma Alike.run_refused (ne : run ≠ abort) (alike : login.Alike (Refused run abort) other)
    (apart : ∀ event ∈ events, event.caller? ≠ some abort) :
    Follows Lifecycle.Effect.anonymous? (Refused run abort) login other events events := by
  have follows := Alike.run id (·.caller? ≠ some abort) (fun _ => True) shows_anonymous
    (fun s t event refused apart => by
      obtain ⟨next, effects⟩ := Refused.step ne refused fun same => apart (congrArg some same)
      exact ⟨next, congrArg _ effects⟩)
    (fun s t id request refused apart _ widget => by
      rw [Refused.stage? refused fun same => apart (congrArg some same)])
    (fun s t refused => refused.phase.symm) alike apart fun _ _ _ _ => trivial
  rwa [Event.onLifecycle_id, List.map_id] at follows

/-- After its abort took the login over a run goes as the abort does, if the widget asks no more. -/
lemma Alike.run_aborted {widget : Option Lifecycle.WidgetId} (ne : run ≠ abort)
    (alike : login.Alike (Aborted run abort widget) other)
    (apart : ∀ event ∈ events, event.caller? ≠ some abort)
    (obeyed : ∀ time own request, own ∈ widget → (time, .asks own request) ∉
      (other.run (events.map (.onLifecycle (.redirect run abort)))).2) :
    Follows Lifecycle.Effect.anonymous? (Aborted run abort widget) login other events
      (events.map (.onLifecycle (.redirect run abort))) := by
  refine Alike.run (.redirect run abort) (·.caller? ≠ some abort) (· ∉ widget) shows_anonymous
    (fun s t event aborted apart => aborted.step ne fun same => apart (congrArg some same))
    (fun s t id request aborted apart silent other => ?_)
    (fun s t aborted => aborted.phase.symm) alike apart fun time own request mem given =>
      obeyed time own request given mem
  · obtain same | ⟨idle, left⟩ := aborted.stage? ne fun same => apart (congrArg some same)
    · rw [same]
    · exact ⟨fun waits => absurd waits (idle other),
        fun waits => absurd (left other waits) (silent other waits)⟩

end Runs

/-- Up to its interrupt a run is a start. -/
lemma Interruption.opening_follows (x : Interruption) {login : Login}
    (new : (login.run x.before).1.lifecycle.stage? x.run = none)
    (once : .lifecycle (.interrupt x.run) ∉ x.meanwhile) :
    Follows some (Lifecycle.State.Alike (Marked x.run)) login login (x.opening (.run x.widget))
      (x.opening (.start x.widget)) := by
  have before : Follows some (· = ·) login login x.before x.before := ⟨⟨.refl _, rfl⟩, rfl⟩
  obtain ⟨next, effects⟩ := Marked.start (Lifecycle.State.stage?_eq_none.1 new) x.widget
  have call := before.alike.follows shows_some next.phase.symm next
    (congrArg (List.filterMap some) effects)
  have rest := call.alike.run_marked once
  exact before.append (call.append rest)

/-- A widget that is told to stop makes no request later. -/
lemma Obeyed.after {login : Login} {event : Lifecycle.Event} {events : List Event}
    {own : Lifecycle.WidgetId} (obeyed : Obeyed (login.run (.lifecycle event :: events)).2)
    (stops : .abortWidget own ∈ (login.lifecycle.step event).2) (time : Nat)
    (request : Except Http.Fault Http.Request) :
    (time, .asks own request) ∉ ((login.step (.lifecycle event)).1.run events).2 := by
  intro mem
  have told : (login.now, .lifecycle (.abortWidget own)) ∈ (login.timedStep (.lifecycle event)).2 :=
    List.mem_map_of_mem (List.mem_map_of_mem stops)
  exact (List.pairwise_append.1 obeyed).2.2 _ told _ mem own request rfl rfl

/-- From its interrupt on a run is what the start and the abort are together. -/
lemma Interruption.follows (x : Interruption) {login other : Login} {Result begun armed decided}
    (alike : login.Alike (Lifecycle.State.Alike (Marked x.run)) other)
    (standing : Lifecycle.Standing Result login.lifecycle begun armed decided)
    (pending : login.lifecycle.ending? x.run = none)
    (new : other.lifecycle.stage? x.abort = none)
    (apart : ∀ event ∈ x.after, event.caller? ≠ some x.abort)
    (obeyed : Obeyed (other.run (.lifecycle (.call x.abort .abort) :: x.answered other)).2) :
    Follows Lifecycle.Effect.anonymous? (fun s t => Lifecycle.Merges s x.run t x.abort) login other
      (.lifecycle (.interrupt x.run) :: x.after)
      (.lifecycle (.call x.abort .abort) :: x.answered other) := by
  have related := alike.related
  have waits ending : login.lifecycle.stage? x.run ≠ some (.ended ending) := by
    rw [ne_eq, ← Lifecycle.State.ending?_eq_some, pending]
    exact nofun
  have fresh := Lifecycle.State.stage?_eq_none.1 new
  obtain ⟨ne, -, aborts, stage, made, -⟩ := Marked.moment related waits fresh
  cases phase : other.lifecycle.phase.isTerminal with
  | true =>
    -- another call was faster, so that neither the interrupt nor the abort comes to anything
    obtain ⟨refused, effects⟩ := Marked.refused related waits fresh (related.phase ▸ phase)
    have moment := alike.follows shows_anonymous refused.phase.symm refused effects
    have rest := moment.alike.run_refused ne apart
    rw [answered, if_pos phase]
    exact (moment.append rest).mono fun s t refused => Refused.merges refused ne
  | false =>
    -- nobody was faster, so that the run is still at its widget, which both tell to stop
    have nonterminal : login.lifecycle.phase.isTerminal = false := related.phase ▸ phase
    have at' : login.lifecycle.stage? x.run = some stage := by simp [Lifecycle.State.stage?, made]
    obtain ⟨own, rfl, registered⟩ := standing.of_pending nonterminal at' fun ending ended =>
      waits ending (ended ▸ at')
    obtain ⟨aborted, effects⟩ := Marked.aborted related waits fresh nonterminal at'
    have moment := alike.follows shows_anonymous aborted.phase.symm aborted effects
    have stops : .abortWidget own ∈ (other.lifecycle.step (.call x.abort .abort)).2 := by
      rw [aborts]
      exact Lifecycle.State.abort_stops phase (related.registered.trans registered) x.abort
    rw [answered, if_neg (by simp [phase])] at obeyed ⊢
    have rest := moment.alike.run_aborted ne apart fun time asking request given => by
      obtain rfl : own = asking := Option.some.inj given
      exact obeyed.after stops time request
    exact (moment.append rest).mono fun s t aborted => aborted.merges ne

/-- Once the abort came first, the run is what the start and the abort are together. -/
lemma Interruption.answered_follows (x : Interruption) {login : Login}
    (runs : login.lifecycle.calls x.run = none) (aborts : login.lifecycle.calls x.abort = none)
    (ne : x.run ≠ x.abort) (apart : ∀ event ∈ x.after, event.caller? ≠ some x.abort) :
    ∃ R : Lifecycle.State → Lifecycle.State → Prop,
      R (login.lifecycle.abort x.run).1
          ((login.lifecycle.abort x.abort).1.finish x.run .superseded).1 ∧
        ∀ a b : Login, a.Alike R b → Follows Lifecycle.Effect.anonymous?
          (fun s t => Lifecycle.Merges s x.run t x.abort) a b x.after (x.answered login) := by
  unfold answered
  split
  · next terminal =>
    refine ⟨Refused x.run x.abort, Refused.at_once ne runs aborts terminal, fun a b alike => ?_⟩
    exact (alike.run_refused ne apart).mono fun s t refused => refused.merges ne
  · next nonterminal =>
    refine ⟨Aborted x.run x.abort none,
      Aborted.at_once ne runs aborts (by simpa using nonterminal), fun a b alike => ?_⟩
    exact (alike.run_aborted ne apart nofun).mono fun s t aborted => aborted.merges ne

/-- An abort in place of a run whose interrupt is there at once, beside an abort and a start. -/
lemma Interruption.at_once (x : Interruption) {login : Login}
    (new : login.lifecycle.stage? x.run = none) (newAbort : login.lifecycle.stage? x.abort = none)
    (ne : x.run ≠ x.abort) (apart : ∀ event ∈ x.after, event.caller? ≠ some x.abort) :
    Matches Lifecycle.Effect.anonymous? (fun s t => Lifecycle.Merges s x.run t x.abort) login login
        (.lifecycle (.call x.run .abort) :: x.after)
        (.lifecycle (.call x.abort .abort) :: .lifecycle (.call x.run (.start x.widget)) ::
          x.answered login) ∧
      ∃ phase later,
        login.phases (.lifecycle (.call x.run .abort) :: x.after) = phase :: later ∧
        login.phases (.lifecycle (.call x.abort .abort) ::
          .lifecycle (.call x.run (.start x.widget)) :: x.answered login) =
            phase :: phase :: later := by
  have runs := Lifecycle.State.stage?_eq_none.1 new
  have aborts := Lifecycle.State.stage?_eq_none.1 newAbort
  obtain ⟨R, next, rest⟩ := x.answered_follows runs aborts ne apart
  obtain ⟨phase, effects⟩ := login.lifecycle.abort_anonymous x.run x.abort
  have first : Follows Lifecycle.Effect.anonymous?
      (fun s t => s = (login.lifecycle.abort x.run).1 ∧ t = (login.lifecycle.abort x.abort).1)
      login login [.lifecycle (.call x.run .abort)] [.lifecycle (.call x.abort .abort)] := by
    refine (Alike.refl login).follows shows_anonymous ?_ ?_ ?_ <;>
      rw [Lifecycle.State.step_abort runs, Lifecycle.State.step_abort aborts]
    · exact phase
    · exact ⟨rfl, rfl⟩
    · exact effects
  obtain ⟨run, abort⟩ := first.alike.related
  have late := Lifecycle.State.step_start_after_abort ne runs x.widget
  -- the start has no counterpart in the first row
  have second : Matches Lifecycle.Effect.anonymous? R
      (login.run [.lifecycle (.call x.run .abort)]).1
      (login.run [.lifecycle (.call x.abort .abort)]).1
      [] [.lifecycle (.call x.run (.start x.widget))] := by
    refine first.alike.matches_quiet shows_anonymous ?_ ?_
    · rwa [run, abort, late]
    · rw [abort, late]
      rfl
  have third := rest _ _ second.alike
  refine ⟨first.toMatches.append (second.append third.toMatches),
    (login.lifecycle.abort x.run).1.phase,
    (login.run [.lifecycle (.call x.run .abort)]).1.phases x.after, ?_, ?_⟩
  · show login.phases ([_] ++ ([] ++ x.after)) = _
    rw [phases_append, phases_append, phases_one, Lifecycle.State.step_abort runs]
    rfl
  · show login.phases ([_] ++ ([_] ++ x.answered login)) = _
    rw [phases_append, phases_append, phases_one, phases_one, ← third.phases,
      Lifecycle.State.step_abort aborts, abort, late, phase]
    rfl

/-- A run does what a start does until its interrupt comes, and from then on what the start and an
abort do that is called at that time; its ending is the one of them that is not superseded. -/
theorem run_is_start_and_abort (config : Session.Config) (settings : Settings) (errorUrl : String)
    (hasError : Bool) (x : Interruption)
    (new : ((initial config settings errorUrl hasError).run x.before).1.lifecycle.stage? x.run = none)
    (once : .lifecycle (.interrupt x.run) ∉ x.meanwhile) :
    let login := initial config settings errorUrl hasError
    let asRun := login.run (x.opening (.run x.widget))
    let asStart := login.run (x.opening (.start x.widget))
    -- the interrupt did not come
    (asRun.2 = asStart.2 ∧
        login.phases (x.opening (.run x.widget)) = login.phases (x.opening (.start x.widget)) ∧
        SameOutside login (x.opening (.run x.widget)) (x.opening (.start x.widget)) ∧
        ∀ id, asRun.1.lifecycle.ending? id = asStart.1.lifecycle.ending? id) ∧
      -- it comes while the run is under way
      (asRun.1.lifecycle.ending? x.run = none → asStart.1.lifecycle.stage? x.abort = none →
        (∀ event ∈ x.after, event.caller? ≠ some x.abort) →
        Obeyed (login.run (x.separate login)).2 →
        SameOutside login x.interrupted (x.separate login) ∧
          login.phases x.interrupted = login.phases (x.separate login) ∧
          Lifecycle.Merges (login.run x.interrupted).1.lifecycle x.run
            (login.run (x.separate login)).1.lifecycle x.abort) ∧
      -- it is there before the run starts anything
      ((login.run x.before).1.lifecycle.stage? x.abort = none → x.run ≠ x.abort →
        (∀ event ∈ x.after, event.caller? ≠ some x.abort) →
        SameOutside login x.interruptedAtOnce (x.separateAtOnce login) ∧
          (∃ earlier phase later, login.phases x.interruptedAtOnce = earlier ++ phase :: later ∧
            login.phases (x.separateAtOnce login) = earlier ++ phase :: phase :: later) ∧
          Lifecycle.Merges (login.run x.interruptedAtOnce).1.lifecycle x.run
            (login.run (x.separateAtOnce login)).1.lifecycle x.abort) := by
  intro login asRun asStart
  have opening := x.opening_follows new once
  have unnamed : Follows Lifecycle.Effect.anonymous? _ login login (x.opening (.run x.widget))
      (x.opening (.start x.widget)) :=
    opening.of_some
  refine ⟨⟨?_, opening.phases, unnamed.toMatches.sameOutside, fun id => ?_⟩, ?_, ?_⟩
  · have effects := opening.effects
    rwa [through_some, through_some] at effects
  · have same := Marked.stage? opening.alike.related id
    unfold Lifecycle.State.ending?
    rw [same]
  · intro pending newAbort apart obeyed
    have reaches : asRun.1.lifecycle =
        Lifecycle.reached config (lifecycleEvents (x.opening (.run x.widget))) :=
      (login.run_lifecycle _).1
    have standing := Lifecycle.standing_reached config
      (lifecycleEvents (x.opening (.run x.widget)))
    rw [← reaches] at standing
    rw [Interruption.separate, run_append] at obeyed
    have rest := x.follows opening.alike standing pending newAbort apart
      (List.pairwise_append.1 obeyed).2.1
    have whole := unnamed.append rest
    exact ⟨whole.toMatches.sameOutside, whole.phases, whole.alike.related⟩
  · intro newAbort ne apart
    have before : Matches Lifecycle.Effect.anonymous? (· = ·) login login x.before x.before :=
      ⟨.refl _, rfl⟩
    obtain ⟨rest, phase, later, one, two⟩ := x.at_once new newAbort ne apart
    have whole := before.append rest
    refine ⟨whole.sameOutside, ⟨login.phases x.before, phase, later, ?_, ?_⟩, whole.alike.related⟩
    · rw [Interruption.interruptedAtOnce, phases_append, one]
    · rw [Interruption.separateAtOnce, phases_append, two]

/-- A widget that was told to stop before it brought anything, beside a request that it made. -/
theorem run_is_start_and_abort_of_stopped_widget :
    let config : Session.Config :=
      { server := "s", assertUrl := "a", errorAssertUrl := "e", parameters := ""
        session := some { pointer := { address := "irma/session/1", metadata := [] }, token := "t" } }
    let login := initial config {} "" false
    let x : Interruption :=
      { before := [], run := 0, widget := 7, meanwhile := [.asks 0 (.error (.address none))],
        abort := 1, after := [.lifecycle (.widgetEnded 0 .aborted)] }
    SameOutside login x.interrupted (x.separate login) ∧
      login.phases x.interrupted = login.phases (x.separate login) ∧
      Lifecycle.Merges (login.run x.interrupted).1.lifecycle x.run
        (login.run (x.separate login)).1.lifecycle x.abort := by
  intro config login x
  obtain ⟨handover, did⟩ : ∃ handover, (login.run (x.separate login)).2 =
      [(0, .lifecycle (.startWidget 0 7 handover)), (0, .asks 7 (.error (.address none))),
        (0, .lifecycle (.abortWidget 7)), (0, .lifecycle (.hook .onError)),
        (0, .lifecycle (.beginExchange 1 .abort)), (0, .lifecycle (.finish 0 .superseded))] :=
    ⟨_, rfl⟩
  refine (run_is_start_and_abort config {} "" false x rfl (by simp [x])).2.1 rfl rfl ?_ ?_
  · simp [x, Event.caller?, Lifecycle.Event.caller]
  · show Obeyed (login.run (x.separate login)).2
    rw [did]
    simp [Obeyed]

end DisclosureRelay.Login
