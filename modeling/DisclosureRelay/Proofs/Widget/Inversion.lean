import DisclosureRelay.Widget.History
import Mathlib.Tactic.Lemma

/-!
# What an event can do to a widget

`Move` lists what an event can do to a widget that fetches results, each with what has to hold for
it, what becomes of the widget and what the widget does. `step_move` says that every event is one of
these moves. By cases on them, a widget without a run does nothing (`Move.rests`), and a run that
fetches the result ends with the first reply (`fetching_run`).
-/

namespace DisclosureRelay.Widget.ResultWidget

/-- What an event can do to a widget. -/
inductive Move (widget : ResultWidget) :
    ResultEvent → ResultWidget → List ResultEffect → Prop where
  | confirms :
    widget.closed = false →
    Move widget .confirm { widget with confirmations := widget.confirmations + 1 } []
  | lost : widget.closed = true ∨ 0 < widget.confirmations → Move widget .confirm widget []
  | closes : Move widget .close { widget with closed := true } []
  | aborts : Move widget .abort { widget with permit := true } []
  | starts {url} :
    widget.Rests → Move widget (.start url) { widget with stage := .waiting url } []
  | busy {url} : ¬widget.Rests → Move widget (.start url) widget []
  /-- The run takes the abort. -/
  | stops {first url} :
    widget.stage = .waiting url → widget.permit = true → first = .abort ∨ ¬widget.Speaks →
    Move widget (.look first) { widget with permit := false, stage := .ended .aborted }
      [.ended .aborted]
  /-- The run takes a confirmation. -/
  | receives {first url} :
    widget.stage = .waiting url → 0 < widget.confirmations →
    (widget.permit = true → first = .channel) →
    Move widget (.look first)
      { widget with confirmations := widget.confirmations - 1, stage := .fetching url }
      [.fetch url]
  /-- The run takes that the channel was closed. -/
  | fails {first url} :
    widget.stage = .waiting url → widget.confirmations = 0 → widget.closed = true →
    (widget.permit = true → first = .channel) →
    Move widget (.look first)
      { widget with stage := .ended (.failed "Confirmation source closed") }
      [.ended (.failed "Confirmation source closed")]
  /-- The run finds nothing. -/
  | goesOn {first url} :
    widget.stage = .waiting url → widget.permit = false → ¬widget.Speaks →
    Move widget (.look first) widget []
  /-- No run waits that could look. -/
  | idles {first} : (∀ url, widget.stage ≠ .waiting url) → Move widget (.look first) widget []
  | ends {url reply} :
    widget.stage = .fetching url →
    Move widget (.fetched reply) { widget with stage := .ended (outcome url reply) }
      [.ended (outcome url reply)]
  /-- No run asked for the result. -/
  | unasked {reply} :
    (∀ url, widget.stage ≠ .fetching url) → Move widget (.fetched reply) widget []

variable {widget next : ResultWidget} {event : ResultEvent} {events : List ResultEvent}
  {effects : List ResultEffect} {url : String}

/-- A look of a run that waits is a move. -/
lemma look_move (waiting : widget.stage = .waiting url) (first : Signal) :
    widget.Move (.look first) (widget.look first url).1 (widget.look first url).2 := by
  unfold look receive
  split
  · next takes => exact .stops waiting takes.1 takes.2
  · next leaves =>
    have channel (permit : widget.permit = true) : first = .channel := by
      cases first with
      | abort => exact absurd ⟨permit, .inl rfl⟩ leaves
      | channel => rfl
    split
    · next some => exact .receives waiting some channel
    · next none =>
      have none : widget.confirmations = 0 := Nat.eq_zero_of_not_pos none
      split
      · next closed => exact .fails waiting none closed channel
      · next still =>
        have silent : ¬widget.Speaks := by simp [Speaks, none, still]
        refine .goesOn waiting ?_ silent
        simpa [silent] using leaves

/-- Every event is a move. -/
theorem step_move (widget : ResultWidget) (event : ResultEvent) :
    widget.Move event (widget.step event).1 (widget.step event).2 := by
  cases event with
  | confirm =>
    unfold step
    dsimp only
    split
    · next full =>
      refine .lost (full.imp_right fun full => ?_)
      exact Nat.lt_of_lt_of_le widget.room_pos full
    · next free =>
      rw [not_or, Bool.not_eq_true] at free
      exact .confirms free.1
  | close => exact .closes
  | abort => exact .aborts
  | start url =>
    unfold step
    dsimp only
    split
    · next stage => exact .starts (by simp [Rests, stage])
    · next stage => exact .starts (by simp [Rests, stage])
    · next waited stage => exact .busy fun rests => (rests waited).1 stage
    · next asked stage => exact .busy fun rests => (rests asked).2 stage
  | look first =>
    unfold step
    dsimp only
    split
    · next waiting => exact look_move waiting first
    · next others => exact .idles others
  | fetched reply =>
    unfold step
    dsimp only
    split
    · next fetching => exact .ends fetching
    · next others => exact .unasked others

/-! ## Widgets without a run -/

lemma Move.rests (move : widget.Move event next effects) (rests : widget.Rests)
    (unstarted : ∀ url, event ≠ .start url) : effects = [] ∧ next.Rests := by
  cases move with
  | confirms | closes | aborts => exact ⟨rfl, rests⟩
  | lost | goesOn | idles | unasked => exact ⟨rfl, rests⟩
  | starts | busy => exact absurd rfl (unstarted _)
  | stops waiting | receives waiting | fails waiting => exact absurd waiting (rests _).1
  | ends fetching => exact absurd fetching (rests _).2

/-- A widget without a run does nothing on a row on which none is started. -/
lemma rests_run (rests : widget.Rests) (unstarted : Unstarted events) :
    (widget.run events).2 = [] ∧ (widget.run events).1.Rests := by
  induction events generalizing widget with
  | nil => exact ⟨rfl, rests⟩
  | cons event events ih =>
    obtain ⟨other, later⟩ := unstarted_cons.1 unstarted
    obtain ⟨silent, rests⟩ := (widget.step_move event).rests rests other
    obtain ⟨nothing, rests⟩ := ih rests later
    rw [run_cons]
    exact ⟨by rw [silent, nothing]; rfl, rests⟩

/-! ## Runs that fetch the result -/

lemma Move.fetches (move : widget.Move event next effects)
    (fetching : widget.stage = .fetching url) :
    (event.reply? = none ∧ effects = [] ∧ next.stage = .fetching url) ∨
      ∃ reply, event.reply? = some reply ∧ effects = [.ended (outcome url reply)] ∧
        next.Rests := by
  have busy : ¬widget.Rests := fun rests => (rests url).2 fetching
  cases move with
  | confirms | closes | aborts | lost | busy | idles => exact .inl ⟨rfl, rfl, fetching⟩
  | starts rests => exact absurd rests busy
  | stops waiting | receives waiting | fails waiting | goesOn waiting =>
    simp [fetching] at waiting
  | @ends _ reply asked =>
    rw [fetching] at asked
    cases asked
    exact .inr ⟨reply, rfl, rfl, by simp [Rests]⟩
  | unasked others => exact absurd fetching (others url)

/-- A run that fetches the result ends with the first reply, whatever else comes. -/
lemma fetching_run (fetching : widget.stage = .fetching url) (unstarted : Unstarted events) :
    (widget.run events).2 = (ending? url events).toList := by
  induction events generalizing widget with
  | nil => rfl
  | cons event events ih =>
    have later := (unstarted_cons.1 unstarted).2
    rw [run_cons]
    obtain ⟨none, silent, fetching⟩ | ⟨reply, answered, ends, rests⟩ :=
      (widget.step_move event).fetches fetching
    · rw [silent, ih fetching later, ending?, ending?, List.findSome?_cons, none]
      rfl
    · rw [ends, (rests_run rests later).1, ending?, List.findSome?_cons, answered]
      rfl

end DisclosureRelay.Widget.ResultWidget
