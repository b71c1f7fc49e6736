import DisclosureRelay.Proofs.Lifecycle.Alike
import DisclosureRelay.Proofs.Login.Alike
import Mathlib.Data.List.Induction

/-!
# Calls that come too late

Once a login is taken over, calls that are made besides are nothing to it: each of them is superseded
at once, and everything else goes as it would without them. `Item` is a place in a row of events with
such calls put in; `whole` is the row with them and `original` the row without.
-/

namespace DisclosureRelay

namespace Lifecycle

/-- Calls are the same unless they have one of some numbers. -/
def Others (ids : List CallId) (id : CallId) (call call' : Option Call) : Prop :=
  id ∈ ids ∨ call = call'

/-- The effect, unless it is that a call of some numbers was superseded. -/
def Effect.besides? (ids : List CallId) : Effect → Option Effect
  | .finish id .superseded => if id ∈ ids then none else some (.finish id .superseded)
  | effect => some effect

namespace State

variable {s t : State} {event : Event} {ids : List CallId}

/-- What an event does that is about none of some calls is nothing of theirs. -/
lemma Move.besides {effects : List Effect} (move : s.Move event t effects)
    (own : event.caller ∉ ids) : effects.filterMap (Effect.besides? ids) = effects := by
  have shown effect (mem : effect ∈ effects) : effect.besides? ids = some effect := by
    cases effect with
    | finish id ending =>
      obtain rfl := move.finishes mem
      cases ending <;> simp [Effect.besides?, own]
    | _ => rfl
  clear move
  induction effects with
  | nil => rfl
  | cons effect effects ih =>
    rw [List.filterMap_cons, shown effect List.mem_cons_self, ih fun _ mem => shown _ (.tail _ mem)]

/-- A call that comes when the login is taken over is superseded at once, and nothing else of the
login changes. -/
lemma step_late {id : CallId} (entry : Entry) (terminal : s.phase.isTerminal = true)
    (new : s.stage? id = none) :
    ∃ interrupt, s.step (.call id entry) =
      ({ s with calls := fun other =>
          if other = id then some ⟨interrupt, .ended .superseded⟩ else s.calls other },
        [.finish id .superseded]) := by
  have fresh := stage?_eq_none.1 new
  have started := (Phase.isTerminal_ne terminal).1
  have ends : s.moveTo id (.ended .superseded) =
      { s with calls := fun other =>
          if other = id then some ⟨Interrupt.none, .ended .superseded⟩ else s.calls other } := by
    simp only [moveTo, fresh, Option.map_none, Option.getD_none]
  have notes : (s.moveTo id (.ended .superseded)).mark id .open =
      { s with calls := fun other =>
          if other = id then some ⟨.open, .ended .superseded⟩ else s.calls other } := by
    simp +contextual [ends, mark]
  unfold step
  dsimp only
  rw [fresh]
  cases entry with
  | start => exact ⟨Interrupt.none, by simp [enter, start, started, finish, ends]⟩
  | run => exact ⟨Interrupt.open, by simp [enter, start, started, finish, notes]⟩
  | handleError => exact ⟨Interrupt.none, by simp [enter, handleError, terminal, finish, ends]⟩
  | abort => exact ⟨Interrupt.none, by simp [enter, abort, terminal, finish, ends]⟩

end State

end Lifecycle

namespace Login

open Lifecycle (CallId Others)

/-- A place in a row of events: an event of the row, or a call that is put in. -/
inductive Item where
  | own (event : Event)
  | late (id : CallId) (entry : Lifecycle.Entry)

namespace Item

/-- What happens at a place. -/
def event : Item → Event
  | own event => event
  | late id entry => .lifecycle (.call id entry)

/-- The event of the row at a place. -/
def own? : Item → Option Event
  | own event => some event
  | late _ _ => none

/-- The number of the call that is put in at a place. -/
def late? : Item → Option CallId
  | own _ => none
  | late id _ => some id

end Item

/-- The row of events with the calls that are put in. -/
def whole (row : List Item) : List Event :=
  row.map Item.event

/-- The row of events without the calls that are put in. -/
def original (row : List Item) : List Event :=
  row.filterMap Item.own?

/-- The numbers of the calls that are put in. -/
def lateIds (row : List Item) : List CallId :=
  row.filterMap Item.late?

/-- The calls that are put in come when the login is taken over, each with a number of its own. -/
structure Late (login : Login) (row : List Item) : Prop where
  settled : ∀ before id entry after, row = before ++ .late id entry :: after →
    (login.run (original before)).1.lifecycle.phase.isTerminal = true
  numbered : (lateIds row).Nodup
  apart : ∀ event ∈ original row, ∀ id ∈ lateIds row, event.caller? ≠ some id

lemma shows_besides (ids : List CallId) : Shows (Lifecycle.Effect.besides? ids) := by
  intro login effect
  cases effect with
  | finish id ending =>
    cases ending with
    | superseded => by_cases late : id ∈ ids <;> simp [Lifecycle.Effect.besides?, absorb, late]
    | _ => rfl
  | _ => rfl

/-- An event moves no call but its own. -/
lemma stage?_step (login : Login) {event : Event} {id : CallId} (other : event.caller? ≠ some id) :
    (login.step event).1.lifecycle.stage? id = login.lifecycle.stage? id := by
  cases event with
  | lifecycle event =>
    rw [lifecycle_step]
    exact (login.lifecycle.step_move event).stage_other fun same => other (congrArg some same.symm)
  | _ => rw [(login.step_other rfl).1]

lemma stage?_run (login : Login) {events : List Event} {id : CallId}
    (other : ∀ event ∈ events, event.caller? ≠ some id) :
    (login.run events).1.lifecycle.stage? id = login.lifecycle.stage? id := by
  induction events generalizing login with
  | nil => rfl
  | cons event events ih =>
    rw [run_cons, ih _ fun event mem => other event (.tail _ mem),
      login.stage?_step (other event List.mem_cons_self)]

/-- Logins whose lifecycles are alike have everything but their calls in common. -/
lemma Alike.with_calls {login other : Login}
    {Same : CallId → Option Lifecycle.Call → Option Lifecycle.Call → Prop}
    (alike : login.Alike (Lifecycle.State.Alike Same) other) :
    other = { login with
      lifecycle := { login.lifecycle with calls := other.lifecycle.calls } } := by
  cases alike with
  | intro lifecycle related =>
    cases related
    rfl

/-- Logins that differ in some calls only do the same on an event that is about none of them. -/
lemma Alike.run_others {login other : Login} {ids : List CallId} {event : Event}
    (alike : login.Alike (Lifecycle.State.Alike (Others ids)) other)
    (apart : ∀ id ∈ ids, event.caller? ≠ some id) :
    Matches (Lifecycle.Effect.besides? ids) (Lifecycle.State.Alike (Others ids)) login other [event]
      [event] := by
  have own {id} (mine : id ∉ ids) (call call' : Option Lifecycle.Call) :
      Others ids id call call' ↔ call = call' := by
    simp [Others, mine]
  have follows : Follows (Lifecycle.Effect.besides? ids) (Lifecycle.State.Alike (Others ids)) login
      other [event] ([event].map (.onLifecycle id)) := Alike.run id
    (fun event => ∀ id ∈ ids, event.caller? ≠ some id) (fun _ => True) (shows_besides ids)
    (fun s t event alike apart => by
      obtain ⟨next, effects⟩ := alike.step_own (own fun mem => apart _ mem rfl)
      exact ⟨next, congrArg _ effects⟩)
    (fun s t id request alike apart _ widget => by
      have same : s.calls id = t.calls id := (own (fun mem => apart _ mem rfl) ..).1 (alike.calls id)
      simp [Lifecycle.State.stage?, same])
    (fun s t alike => alike.phase.symm) alike (by simpa using apart)
    fun _ _ _ _ => trivial
  rw [Event.onLifecycle_id, List.map_id] at follows
  exact follows.toMatches

/-- A call that is put in once the login is taken over is superseded at once. -/
lemma Alike.run_late {login other : Login} {ids : List CallId} {id : CallId}
    (alike : login.Alike (Lifecycle.State.Alike (Others ids)) other) (late : id ∈ ids)
    (entry : Lifecycle.Entry) (terminal : other.lifecycle.phase.isTerminal = true)
    (new : other.lifecycle.stage? id = none) :
    Matches (Lifecycle.Effect.besides? ids) (Lifecycle.State.Alike (Others ids)) login other []
      [.lifecycle (.call id entry)] := by
  obtain ⟨interrupt, ends⟩ := Lifecycle.State.step_late entry terminal new
  have related := alike.related
  refine alike.matches_quiet (shows_besides ids) ?_ ?_ <;> rw [ends]
  · refine .of_calls related.config related.phase related.registered fun call => ?_
    by_cases same : call = id
    · exact .inl (same ▸ late)
    · simpa [same] using related.calls call
  · simp [Lifecycle.Effect.besides?, late]

lemma original_append (row more : List Item) : original (row ++ more) = original row ++ original more :=
  List.filterMap_append

lemma lateIds_append (row more : List Item) : lateIds (row ++ more) = lateIds row ++ lateIds more :=
  List.filterMap_append

lemma whole_append (row more : List Item) : whole (row ++ more) = whole row ++ whole more :=
  List.map_append

/-- What happens in a row is an event of its own or a call that is put in. -/
lemma mem_whole {row : List Item} {event : Event} (mem : event ∈ whole row) :
    event ∈ original row ∨ ∃ id ∈ lateIds row, event.caller? = some id := by
  obtain ⟨item, place, rfl⟩ := List.mem_map.1 mem
  cases item with
  | own event => exact .inl (List.mem_filterMap.2 ⟨.own event, place, rfl⟩)
  | late id entry => exact .inr ⟨id, List.mem_filterMap.2 ⟨.late id entry, place, rfl⟩, rfl⟩

/-- Nothing else that happens in a row is about a call that is put in. -/
lemma Late.others {login : Login} {row before after : List Item} {id : CallId}
    {entry : Lifecycle.Entry} (late : Late login row) (cut : row = before ++ .late id entry :: after)
    {event : Event} (mem : event ∈ whole before ∨ event ∈ whole after) : event.caller? ≠ some id := by
  intro mine
  have numbered := late.numbered
  rw [cut, lateIds_append] at numbered
  obtain ⟨-, later, apart⟩ := List.nodup_append.1 numbered
  have own (own : event ∈ original before ∨ event ∈ original after) : False := by
    refine late.apart event ?_ id ?_ mine
    · rw [cut, original_append]
      exact List.mem_append.2 own
    · rw [cut, lateIds_append]
      exact List.mem_append_right _ List.mem_cons_self
  obtain mem | mem := mem
  · obtain mem | ⟨other, earlier, same⟩ := mem_whole mem
    · exact own (.inl mem)
    · obtain rfl : other = id := Option.some.inj (same.symm.trans mine)
      exact apart other earlier other List.mem_cons_self rfl
  · obtain mem | ⟨other, again, same⟩ := mem_whole mem
    · exact own (.inr mem)
    · obtain rfl : other = id := Option.some.inj (same.symm.trans mine)
      exact (List.nodup_cons.1 later).1 again

/-- The number of a call is not in use when it is put in. -/
lemma Late.new {login : Login} {row before after : List Item} {id : CallId} {entry : Lifecycle.Entry}
    (late : Late login row) (cut : row = before ++ .late id entry :: after) :
    (login.run (whole before)).1.lifecycle.stage? id = login.lifecycle.stage? id :=
  login.stage?_run fun _ mem => late.others cut (.inl mem)

/-- Up to each place of a row, a login goes with the calls that are put in as it does without. -/
lemma Late.matches {login : Login} {row before after : List Item} (late : Late login row)
    (new : ∀ id ∈ lateIds row, login.lifecycle.stage? id = none) (cut : row = before ++ after) :
    Matches (Lifecycle.Effect.besides? (lateIds row))
      (Lifecycle.State.Alike (Others (lateIds row))) login login (original before) (whole before) := by
  induction before using List.reverseRecOn generalizing after with
  | nil => exact ⟨.intro login.lifecycle (.intro _ fun _ => .inr rfl), rfl⟩
  | append_singleton before item ih =>
    rw [List.append_assoc] at cut
    have earlier := ih cut
    rw [original_append, whole_append]
    refine earlier.append ?_
    cases item with
    | own event =>
      refine earlier.alike.run_others fun id mem => late.apart event ?_ id mem
      rw [cut, original_append]
      exact List.mem_append_right _ List.mem_cons_self
    | late id entry =>
      have here : id ∈ lateIds row := by
        rw [cut, lateIds_append]
        exact List.mem_append_right _ List.mem_cons_self
      refine earlier.alike.run_late here entry ?_ ((late.new cut).trans (new id here))
      rw [earlier.alike.related.phase]
      exact late.settled before id entry after cut

/-- A view that shows less shows the same of two rows too. -/
lemma Matches.coarser {view view' : Lifecycle.Effect → Option Lifecycle.Effect}
    {R : Lifecycle.State → Lifecycle.State → Prop} {login other : Login} {events others : List Event}
    (matched : Matches view R login other events others)
    (less : ∀ effect, (view effect).bind view' = view' effect) :
    Matches view' R login other events others where
  alike := matched.alike
  effects := by
    have composed (effects : List (Nat × Effect)) :
        through view' (through view effects) = through view' effects := by
      rw [through, through, List.filterMap_filterMap]
      congr
      funext entry
      obtain ⟨time, effect⟩ := entry
      cases effect with
      | lifecycle effect =>
        simp only [Effect.through, ← less effect]
        cases view effect <;> simp
      | _ => rfl
    rw [← composed, matched.effects, composed]

/-- An event of the row does nothing of the calls that are put in. -/
lemma through_besides_step (login : Login) {event : Event} {ids : List CallId}
    (apart : ∀ id ∈ ids, event.caller? ≠ some id) :
    through (Lifecycle.Effect.besides? ids) (login.timedStep event).2 = (login.timedStep event).2 := by
  cases event with
  | lifecycle event =>
    have own := (login.lifecycle.step_move event).besides fun mem => apart _ mem rfl
    simp only [timedStep, step]
    rw [through_lifecycle, own, List.map_map]
    rfl
  | asks id request =>
    simp only [timedStep, step]
    split <;> rfl
  | returns event | report event =>
    simp [timedStep, step, through, Effect.through, List.filterMap_map, Function.comp_def]
  | hook hook => rfl

lemma through_besides_run (login : Login) {events : List Event} {ids : List CallId}
    (apart : ∀ event ∈ events, ∀ id ∈ ids, event.caller? ≠ some id) :
    through (Lifecycle.Effect.besides? ids) (login.run events).2 = (login.run events).2 := by
  induction events generalizing login with
  | nil => rfl
  | cons event events ih =>
    rw [run_cons, through_append, ih _ fun event mem => apart event (.tail _ mem),
      login.through_besides_step (apart event List.mem_cons_self)]

/-- Calls that are made once a login is taken over are superseded at once, and nothing else of the
login is other than it would be without them. -/
theorem late_calls_of_login (config : Session.Config) (settings : Settings) (errorUrl : String)
    (hasError : Bool) (row : List Item) (late : Late (initial config settings errorUrl hasError) row) :
    let login := initial config settings errorUrl hasError
    -- all that a call does which is put in is to end
    (∀ before id entry after, row = before ++ .late id entry :: after →
      let found := (login.run (whole before)).1
      (found.timedStep (.lifecycle (.call id entry))).2 =
          [(found.now, .lifecycle (.finish id .superseded))] ∧
        (login.run (whole row)).1.lifecycle.ending? id = some .superseded) ∧
      -- everything else is at each place what it would be
      ∀ before after, row = before ++ after →
        let last := (login.run (whole before)).1
        let without := (login.run (original before)).1
        through (Lifecycle.Effect.besides? (lateIds row)) (login.run (whole before)).2 =
            (login.run (original before)).2 ∧
          SameOutside login (original before) (whole before) ∧
          last = { without with
            lifecycle := { without.lifecycle with calls := last.lifecycle.calls } } ∧
          ∀ id ∉ lateIds row, last.lifecycle.calls id = without.lifecycle.calls id := by
  intro login
  have new id (_ : id ∈ lateIds row) : login.lifecycle.stage? id = none := rfl
  refine ⟨fun before id entry after cut => ?_, fun before after cut => ?_⟩
  · intro found
    have terminal : found.lifecycle.phase.isTerminal = true := by
      have related := (late.matches new cut).alike.related
      rw [related.phase]
      exact late.settled before id entry after cut
    obtain ⟨interrupt, ends⟩ :=
      Lifecycle.State.step_late entry terminal ((late.new cut).trans rfl)
    constructor
    · simp only [timedStep, step, ends]
      rfl
    · have later := stage?_run (found.step (.lifecycle (.call id entry))).1
        fun event (mem : event ∈ whole after) => late.others cut (.inr mem)
      rw [Lifecycle.State.ending?_eq_some, cut, whole_append, run_append]
      refine later.trans ?_
      rw [lifecycle_step, ends]
      simp [Lifecycle.State.stage?]
  · intro last without
    have matched := late.matches new cut
    have apart event (mem : event ∈ original before) id (here : id ∈ lateIds row) :
        event.caller? ≠ some id := by
      refine late.apart event ?_ id here
      rw [cut, original_append]
      exact List.mem_append_left _ mem
    refine ⟨?_, ?_, ?_, fun id mine => ?_⟩
    · rw [← matched.effects, login.through_besides_run apart]
    · refine (matched.coarser fun effect => ?_).sameOutside
      cases effect with
      | finish id ending =>
        cases ending with
        | superseded => by_cases here : id ∈ lateIds row <;> simp [Lifecycle.Effect.besides?, here]
        | _ => rfl
      | _ => rfl
    · exact matched.alike.with_calls
    · exact ((matched.alike.related.calls id).resolve_left mine).symm

/-- An abort that comes while an error is asked for, and a start that comes once that failed. -/
theorem late_calls_of_login_after_error :
    let config : Session.Config :=
      { server := "s", assertUrl := "a", errorAssertUrl := "", parameters := "" }
    let login := initial config {} "" false
    let row : List Item :=
      [.own (.lifecycle (.call 0 .handleError)), .late 1 .abort, .own (.lifecycle (.replied 0 .none)),
        .late 2 (.start 9)]
    Late login row ∧ SameOutside login (original row) (whole row) ∧
      (login.run (whole row)).1.lifecycle.ending? 1 = some .superseded ∧
      (login.run (whole row)).1.lifecycle.ending? 2 = some .superseded := by
  intro config login row
  have late : Late login row := by
    refine ⟨fun before id entry after cut => ?_, by decide, ?_⟩
    · rcases before with _ | ⟨first, _ | ⟨second, _ | ⟨third, _ | ⟨fourth, rest⟩⟩⟩⟩ <;>
        simp [row] at cut
      · obtain ⟨rfl, -⟩ := cut
        rfl
      · obtain ⟨rfl, rfl, rfl, -⟩ := cut
        rfl
    · simp [row, original, lateIds, Item.own?, Item.late?, Event.caller?, Lifecycle.Event.caller]
      rintro _ (rfl | rfl) <;> simp
  obtain ⟨ends, rest⟩ := late_calls_of_login config {} "" false row late
  obtain ⟨-, same, -⟩ := rest row [] (List.append_nil row).symm
  exact ⟨late, same, (ends [_] 1 .abort [_, _] rfl).2, (ends [_, _, _] 2 (.start 9) [] rfl).2⟩

end Login

end DisclosureRelay
