import DisclosureRelay.Proofs.Assertion.Answer
import DisclosureRelay.Proofs.Login.Endings
import DisclosureRelay.Proofs.Return.Forms

/-!
# What a login returns the user with

The attempts of a login do what some row of events under their clock makes them do (`run_schedule`),
and an attempt that the lifecycle armed keeps its number and its form (`lifecycleIds_forms`). From
there `returns_of_login` follows a form that is submitted back to the body of the answer that it
comes from.
-/

namespace DisclosureRelay

/-- A login that armed a return armed one, with the assertion of its last exchange. -/
lemma Lifecycle.Standing.of_armed {Result : Exchange → Except Failure Assertion → Prop} {s : State}
    {begun : List Exchange} {armed : List Assertion} {decided : List (CallId × Ending)}
    (standing : Standing Result s begun armed decided) {assertion : Assertion}
    (mem : assertion ∈ armed) :
    ∃ exchange, begun.getLast? = some exchange ∧ Result exchange (.ok assertion) := by
  cases standing with
  | idle | starting => cases mem
  | owned claims _ settles =>
    cases settles with
    | waits | interrupted | failed => cases mem
    | returning granted =>
      obtain rfl := List.mem_singleton.1 mem
      exact ⟨_, claims.getLast?, granted⟩

/-- An assertion that an exchange brought stands in an answer to it, and its form says so. -/
lemma Lifecycle.answered_of_concluded {config : Session.Config} {events : List Event}
    {exchange : Exchange} {assertion : Assertion}
    (concluded : Concluded config events exchange (.ok assertion)) :
    ∃ fields, Answered config events exchange fields ∧
      (Return.Form.ofAssertion assertion).Carries fields := by
  obtain ⟨before, id, reply, after, row, flight, granted⟩ := concluded
  obtain ⟨body, fields, rfl, holds, carries⟩ := Exchange.carries_of_conclude granted
  exact ⟨fields, ⟨before, id, body, after, row, flight, holds⟩, carries⟩

/-- What a login does on an event of a row is done after the whole row. -/
lemma Lifecycle.mem_done {config : Session.Config} {before after : List Event} {event : Event}
    {effect : Effect} (mem : effect ∈ ((reached config before).step event).2) :
    effect ∈ done config (before ++ event :: after) := by
  simp only [done, State.run, Machine.run_append, Machine.run_cons, List.mem_append]
  exact .inr (.inl mem)

/-- A login arms a return with the assertion that an answer to one of its exchanges holds. -/
lemma Lifecycle.armed_of_answered {config : Session.Config} {events : List Event}
    {exchange : Exchange} {request : Http.Request} (sent : exchange.request config = .ok request)
    {fields : Assertion.Fields} (answered : Answered config events exchange fields)
    {form : Return.Form} (carries : form.Carries fields) :
    ∃ assertion ∈ armedReturns (done config events), Return.Form.ofAssertion assertion = form := by
  obtain ⟨before, id, body, after, rfl, flight, holds⟩ := answered
  obtain ⟨assertion, granted, same⟩ := Exchange.conclude_of_carries sent holds carries
  rw [← reached_config config before] at granted
  have arms : .armReturn id assertion ∈
      ((reached config before).step (.replied id (.answer 200 (some body)))).2 := by
    obtain waits | ⟨rfl, waits⟩ := flight <;>
      simp [State.step, waits, State.replied, granted, State.arm]
  exact ⟨assertion, List.mem_filterMap.2 ⟨_, mem_done arms, rfl⟩, same⟩

namespace Login

open Return (Schedule)

section Schedule

/-- What the lifecycle does arms attempts and makes none of them do anything. -/
lemma foldl_absorb_schedule (effects : List Lifecycle.Effect) (login : Login) :
    ∃ row, (effects.foldl absorb login).schedule = (login.schedule.run row).1 ∧
      (login.schedule.run row).2 = [] := by
  induction effects generalizing login with
  | nil => exact ⟨[], rfl, rfl⟩
  | cons effect effects ih =>
    obtain ⟨row, state, nothing⟩ := ih (login.absorb effect)
    cases effect with
    | armReturn id assertion => exact ⟨.arm assertion login.settings :: row, state, nothing⟩
    | _ => exact ⟨row, state, nothing⟩

/-- What the attempts do leaves them as they are. -/
lemma foldl_notice_schedule (effects : List Schedule.Effect) (login : Login) :
    (effects.foldl notice login).schedule = login.schedule := by
  induction effects generalizing login with
  | nil => rfl
  | cons effect effects ih =>
    rw [List.foldl_cons, ih]
    unfold notice
    split <;> rfl

@[simp] lemma returnEffects_append (effects more : List (Nat × Effect)) :
    returnEffects (effects ++ more) = returnEffects effects ++ returnEffects more :=
  List.filterMap_append

/-- The attempts do on an event what a row of events under their clock makes them do. -/
lemma step_schedule (login : Login) (event : Event) :
    ∃ row, (login.step event).1.schedule = (login.schedule.run row).1 ∧
      returnEffects (login.timedStep event).2 = (login.schedule.run row).2 := by
  cases event with
  | lifecycle event =>
    obtain ⟨row, state, nothing⟩ := foldl_absorb_schedule (login.lifecycle.step event).2
      { login with lifecycle := (login.lifecycle.step event).1 }
    exact ⟨row, state, (filterMap_hidden (fun _ => rfl) _).trans nothing.symm⟩
  | returns event =>
    refine ⟨[event], foldl_notice_schedule .., (filterMap_shown (fun _ => rfl) _).trans ?_⟩
    exact (List.append_nil _).symm
  | asks id request =>
    refine ⟨[], ?_, ?_⟩ <;> simp only [timedStep, step] <;> split <;> rfl
  | report event => exact ⟨[], rfl, filterMap_hidden (fun _ => rfl) _⟩
  | hook hook => exact ⟨[], rfl, rfl⟩

/-- The attempts of a login do what a row of events under their clock makes them do. -/
theorem run_schedule (login : Login) (events : List Event) :
    ∃ row, (login.run events).1.schedule = (login.schedule.run row).1 ∧
      returnEffects (login.run events).2 = (login.schedule.run row).2 := by
  induction events generalizing login with
  | nil => exact ⟨[], rfl, rfl⟩
  | cons event events ih =>
    obtain ⟨first, goes, does⟩ := login.step_schedule event
    obtain ⟨rest, state, effects⟩ := ih (login.step event).1
    refine ⟨first ++ rest, ?_, ?_⟩
    · rw [run_cons, state, goes]
      simp only [Schedule.run, Machine.run_append]
    · rw [run_cons, returnEffects_append, effects, does, goes]
      simp only [Schedule.run, Machine.run_append]

end Schedule

/-- The numbers from a place on lead to what comes from that place on. -/
lemma map_getElem?_drop_range {α : Type} (items : List α) (place : Nat) :
    ((List.range items.length).drop place).map (items[·]?) = (items.drop place).map some := by
  rw [List.map_drop, List.map_drop]
  congr 1
  refine List.ext_getElem (by simp) fun index inside _ => ?_
  simp

/-- The attempts that an event arms are found under their numbers. -/
lemma idsBy_attempts (login : Login) (event : Event) :
    (login.idsBy event).map ((login.step event).1.schedule.attempts[·]?) =
      (login.armedBy event).map some := by
  cases event with
  | lifecycle event => exact map_getElem?_drop_range ..
  | _ => rfl

/-- An attempt that the lifecycle armed keeps its number and its form. -/
theorem lifecycleIds_forms (login : Login) (events : List Event) :
    (login.lifecycleIds events).map
        (fun id => ((login.run events).1.schedule.attempts[id]?).map (·.form)) =
      (login.lifecycleAttempts events).map fun attempt => some attempt.form := by
  induction events generalizing login with
  | nil => rfl
  | cons event events ih =>
    have armed := login.idsBy_attempts event
    -- whatever comes after an attempt was armed leaves its number and its form
    have kept : ∀ id ∈ login.idsBy event,
        (((login.step event).1.run events).1.schedule.attempts[id]?).map (·.form) =
          ((login.step event).1.schedule.attempts[id]?).map (·.form) := by
      intro id mem
      have there := List.mem_map_of_mem (f := ((login.step event).1.schedule.attempts[·]?)) mem
      rw [armed] at there
      obtain ⟨attempt, -, found⟩ := List.mem_map.1 there
      obtain ⟨row, state, -⟩ := (login.step event).1.run_schedule events
      obtain ⟨last, found', form⟩ := Schedule.form_run found.symm row
      rw [state, found', ← found]
      exact congrArg some form
    have first : (login.idsBy event).map
        (fun id => ((login.step event).1.schedule.attempts[id]?).map (·.form)) =
          (login.armedBy event).map fun attempt => some attempt.form := by
      have forms := congrArg (List.map (Option.map (·.form))) armed
      rwa [List.map_map, List.map_map] at forms
    rw [run_cons, lifecycleIds, lifecycleAttempts, List.map_append, List.map_append, ih,
      List.map_congr_left kept, first]

/-- What the attempts of the lifecycle submit is what its only attempt submits. -/
lemma lifecycleSubmissions_of_ids {login : Login} {events : List Event} {id : Return.AttemptId}
    (ids : login.lifecycleIds events = [id]) :
    login.lifecycleSubmissions events =
      Schedule.submissions id (returnEffects (login.run events).2) := by
  rw [lifecycleSubmissions, ids, Schedule.submissions, Schedule.own, List.filterMap_filterMap]
  congr
  funext effect
  by_cases same : effect.id = id <;> simp [same]

/-- The attempts of the lifecycle have the forms of the assertions that it armed them with. -/
lemma lifecycleIds_assertions (login : Login) (events : List Event) :
    (login.lifecycleIds events).map
        (fun id => ((login.run events).1.schedule.attempts[id]?).map (·.form)) =
      (Lifecycle.armedReturns (lifecycleEffects (login.run events).2)).map fun assertion =>
        some (.ofAssertion assertion) := by
  have forms := congrArg (List.map some) (login.lifecycleAttempts_forms events)
  rw [List.map_map, List.map_map] at forms
  exact (login.lifecycleIds_forms events).trans forms

/-- An attempt of a login submitted its own form once at most. -/
lemma sent_run {login : Login} (fresh : login.schedule = {}) {events : List Event}
    {id : Return.AttemptId} {attempt : Return.Attempt}
    (found : (login.run events).1.schedule.attempts[id]? = some attempt) :
    Schedule.Sent attempt (Schedule.submissions id (returnEffects (login.run events).2)) := by
  obtain ⟨row, state, effects⟩ := login.run_schedule events
  rw [fresh] at state effects
  rw [state] at found
  rw [effects]
  exact (Schedule.faithful_run row).sent id attempt found

/-- A login submits nothing for its lifecycle, or once the form of an assertion that the lifecycle
armed. -/
lemma lifecycleSubmissions_cases (login : Login) (fresh : login.schedule = {}) {events : List Event}
    (once : (Lifecycle.armedReturns (lifecycleEffects (login.run events).2)).length ≤ 1) :
    login.lifecycleSubmissions events = [] ∨
      ∃ time, ∃ assertion ∈ Lifecycle.armedReturns (lifecycleEffects (login.run events).2),
        login.lifecycleSubmissions events = [(time, .ofAssertion assertion)] := by
  have forms := login.lifecycleIds_assertions events
  match armed : Lifecycle.armedReturns (lifecycleEffects (login.run events).2) with
  | [] =>
    rw [armed] at forms
    have ids : login.lifecycleIds events = [] := List.map_eq_nil_iff.1 forms
    simp [lifecycleSubmissions, ids]
  | [assertion] =>
    rw [armed] at forms
    obtain ⟨id, ids, form⟩ := List.map_eq_singleton_iff.1 forms
    obtain ⟨attempt, found, form⟩ := Option.map_eq_some_iff.1 form
    rw [lifecycleSubmissions_of_ids ids]
    refine (sent_run fresh found).nothing_or_form.imp_right fun ⟨time, sent⟩ => ?_
    exact ⟨time, assertion, List.mem_singleton_self _, by rw [sent, form]⟩
  | _ :: _ :: _ => simp [armed] at once

/-- What a login returns the user with: one form at most, made of the body of the answer to the last
exchange. An attempt with that form is armed if an exchange that was sent has such an answer. -/
theorem returns_of_login (config : Session.Config) (settings : Settings) (errorUrl : String)
    (hasError : Bool) (events : List Event) :
    let login := initial config settings errorUrl hasError
    let own := lifecycleEvents events
    let effects := lifecycleEffects (login.run events).2
    let attempts := (login.run events).1.schedule.attempts
    (login.lifecycleSubmissions events).length ≤ 1 ∧
      (∀ time form, (time, form) ∈ login.lifecycleSubmissions events →
        ∃ exchange fields, (Lifecycle.exchanges effects).getLast? = some exchange ∧
          Lifecycle.Answered config own exchange fields ∧ form.Carries fields) ∧
      ((∀ exchange fields, Lifecycle.Answered config own exchange fields →
          ∀ form : Return.Form, ¬form.Carries fields) →
        login.lifecycleSubmissions events = []) ∧
      ∀ exchange fields form, Lifecycle.Answered config own exchange fields →
        form.Carries fields → (∃ request, exchange.request config = .ok request) →
        ∃ id attempt, login.lifecycleIds events = [id] ∧ attempts[id]? = some attempt ∧
          attempt.form = form := by
  intro login own effects attempts
  have did : effects = Lifecycle.done config own := (login.run_lifecycle events).2
  have standing := Lifecycle.standing_reached config own
  rw [← did] at standing
  have once := standing.length_le_one.2
  have submissions := login.lifecycleSubmissions_cases rfl once
  have origin : ∀ time form, (time, form) ∈ login.lifecycleSubmissions events →
      ∃ exchange fields, (Lifecycle.exchanges effects).getLast? = some exchange ∧
        Lifecycle.Answered config own exchange fields ∧ form.Carries fields := by
    intro time form submitted
    obtain none | ⟨_, assertion, mem, sent⟩ := submissions
    · simp [none] at submitted
    · obtain ⟨exchange, last, concluded⟩ := standing.of_armed mem
      obtain ⟨fields, answered, carries⟩ := Lifecycle.answered_of_concluded concluded
      rw [sent, List.mem_singleton] at submitted
      cases submitted
      exact ⟨exchange, fields, last, answered, carries⟩
  refine ⟨?_, origin, ?_, ?_⟩
  · obtain none | ⟨_, _, _, sent⟩ := submissions
    · simp [none]
    · simp [sent]
  · intro unanswered
    rw [List.eq_nil_iff_forall_not_mem]
    rintro ⟨time, form⟩ submitted
    obtain ⟨exchange, fields, -, answered, carries⟩ := origin time form submitted
    exact unanswered exchange fields answered form carries
  · rintro exchange fields form answered carries ⟨request, sent⟩
    obtain ⟨assertion, mem, same⟩ := Lifecycle.armed_of_answered sent answered carries
    rw [← did] at mem
    have forms := login.lifecycleIds_assertions events
    obtain ⟨only, armed⟩ : ∃ only, Lifecycle.armedReturns effects = [only] :=
      List.length_eq_one_iff.1 (Nat.le_antisymm once (List.length_pos_of_mem mem))
    rw [armed] at mem
    obtain rfl := List.mem_singleton.1 mem
    rw [armed] at forms
    obtain ⟨id, ids, found⟩ := List.map_eq_singleton_iff.1 forms
    obtain ⟨attempt, found, made⟩ := Option.map_eq_some_iff.1 found
    exact ⟨id, attempt, ids, found, made.trans same⟩

end Login

end DisclosureRelay
