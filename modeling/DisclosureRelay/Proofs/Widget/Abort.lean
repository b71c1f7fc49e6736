import DisclosureRelay.Proofs.Widget.Course

/-!
# Runs that are told to abort

An abort is a permit that only a run which waits takes, with its first look after the abort
(`taken_after_abort`). A run that asked for the result has no more looks to take it with, so that it
ends with the reply as if nobody had told it. `abort_of_result` says exactly which runs end as
aborted, and `abort_does_not_end_as_aborted` that not all do.
-/

namespace DisclosureRelay.Widget.ResultWidget

variable {widget now : ResultWidget} {row before pre post mid rest : List ResultEvent}
  {effects : List ResultEffect} {url : String} {first : Signal}

/-- A reply never makes a run end as aborted. -/
lemma outcome_ne_aborted (url : String) (reply : Http.Reply) : outcome url reply ≠ .aborted := by
  by_cases brings : ∃ body, Brings url reply body
  · obtain ⟨body, brings⟩ := brings
    rw [outcome_of_brings brings]
    nofun
  · obtain ⟨reason, fails⟩ := outcome_of_not_brings (not_exists.1 brings)
    rw [fails]
    nofun

lemma ending_ne_aborted (url : String) (events : List ResultEvent) :
    ending? url events ≠ some (.ended .aborted) := by
  rw [ne_eq, ending?, Option.map_eq_some_iff]
  rintro ⟨reply, -, same⟩
  exact outcome_ne_aborted url reply (ResultEffect.ended.inj same)

/-- A run ends as aborted exactly if that is what its look took. -/
lemma Taken.aborted_iff (taken : Taken now url first rest effects)
    (permit : now.permit = true) :
    .ended .aborted ∈ effects ↔ first = .abort ∨ ¬now.Speaks := by
  cases taken with
  | abort _ leaves => simp [leaves]
  | confirmation some channel =>
    have speaks : now.Speaks := .inl some
    simp [ending_ne_aborted, channel permit, speaks]
  | closing none closed channel =>
    have speaks : now.Speaks := .inr closed
    simp [channel permit, speaks]

/-- A run that finds a confirmation, and does not take an abort instead, asks for the result. -/
lemma Taken.asks (taken : Taken now url first rest effects) (some : 0 < now.confirmations)
    (channel : now.permit = true → first = .channel) :
    effects = .fetch url :: (ending? url rest).toList := by
  cases taken with
  | confirmation => rfl
  | abort permit leaves =>
    obtain preferred | mute := leaves
    · simp [channel permit] at preferred
    · exact absurd (.inl some) mute
  | closing none => exact absurd some (by simp [none])

/-- A run that took something and did not end took a confirmation, and no reply came since. -/
lemma Taken.of_running (taken : Taken now url first rest effects)
    (running : ∀ outcome, .ended outcome ∉ effects) :
    0 < now.confirmations ∧ (now.permit = true → first = .channel) ∧ ending? url rest = none := by
  cases taken with
  | abort | closing => exact absurd List.mem_cons_self (running _)
  | confirmation some channel =>
    refine ⟨some, channel, ?_⟩
    cases told : ending? url rest with
    | none => rfl
    | some effect =>
      obtain ⟨reply, -, rfl⟩ := Option.map_eq_some_iff.1 told
      exact absurd (by simp [told]) (running (outcome url reply))

/-! ## Looks after an abort -/

/-- A row of events on which a run looks has a first look. -/
lemma exists_first_look {events : List ResultEvent} (looks : Looks events) :
    ∃ mid first rest, events = mid ++ .look first :: rest ∧ ¬Looks mid := by
  induction events with
  | nil => simp [Looks] at looks
  | cons event events ih =>
    by_cases own : event.isLook = true
    · obtain ⟨first, rfl⟩ : ∃ first, event = .look first := by
        cases event <;> simp at own
        exact ⟨_, rfl⟩
      exact ⟨[], first, events, rfl, by simp [Looks]⟩
    · obtain ⟨mid, first, rest, rfl, unseen⟩ := ih ((looks_cons.1 looks).resolve_left own)
      exact ⟨event :: mid, first, rest, rfl, by rw [looks_cons, not_or]; exact ⟨own, unseen⟩⟩

/-- A run that was told to abort does nothing until it looks. -/
lemma silent_after_abort (rests : widget.Rests)
    (unstarted : Unstarted (before ++ (pre ++ .abort :: mid)))
    (silent : (widget.run (around before url pre)).2 = []) (unseen : ¬Looks mid) :
    (widget.run (around before url (pre ++ .abort :: mid))).2 = [] := by
  rw [← List.append_assoc] at unstarted
  obtain ⟨early, later⟩ := unstarted_append.1 unstarted
  have unseen : ¬Looks (.abort :: mid) := by simpa [looks_cons] using unseen
  rw [around_append, run_of_silent silent]
  obtain ⟨nothing, -⟩ | ⟨_, first, _, row, -⟩ := waiting_run (underway rests early silent).1 later
  · exact nothing
  · exact absurd ⟨.look first, by simp [row], rfl⟩ unseen

/-- A run that was told to abort before it asked for the result takes something with its first look
after that. -/
lemma taken_after_abort (rests : widget.Rests)
    (unstarted : Unstarted (before ++ (pre ++ .abort :: (mid ++ .look first :: rest))))
    (silent : (widget.run (around before url pre)).2 = []) (unseen : ¬Looks mid) :
    ∃ now, now.permit = true ∧ widget.Told (around before url (pre ++ .abort :: mid)) now ∧
      Taken now url first rest
        (widget.run (around before url (pre ++ .abort :: (mid ++ .look first :: rest)))).2 := by
  have row : pre ++ .abort :: (mid ++ .look first :: rest) =
      (pre ++ .abort :: mid) ++ .look first :: rest := by simp
  rw [row, ← List.append_assoc] at unstarted
  obtain ⟨early, later⟩ := unstarted_append.1 unstarted
  have silent := silent_after_abort rests early silent unseen
  obtain ⟨waiting, told⟩ := underway rests early silent
  have permit := told.permit.2 (.inr (by simp [around]))
  refine ⟨_, permit, told, ?_⟩
  rw [row, around_append before url (pre ++ .abort :: mid), run_of_silent silent]
  obtain ⟨_, ⟨⟩, taken⟩ | ⟨-, -, unseen⟩ :=
    waiting_step (.look first) waiting (unstarted_cons.1 later).2
  · exact taken
  · simp [unseen rfl] at permit

/-- Events after a row that brings no reply are all that can bring one. -/
lemma ending_append (unanswered : ending? url rest = none) (events : List ResultEvent) :
    ending? url (rest ++ events) = ending? url events := by
  have none : rest.findSome? ResultEvent.reply? = none := Option.map_eq_none_iff.1 unanswered
  rw [ending?, List.findSome?_append, none]
  rfl

/-- A run that asked for the result before it was told to abort goes on as if nobody had told it. -/
lemma asked_before_abort (rests : widget.Rests)
    (unstarted : Unstarted (before ++ (pre ++ .abort :: post)))
    (asked : (widget.run (around before url pre)).2 ≠ [])
    (running : ∀ outcome, .ended outcome ∉ (widget.run (around before url pre)).2) :
    (widget.run (around before url (pre ++ .abort :: post))).2 =
      .fetch url :: (ending? url post).toList := by
  obtain ⟨early, later⟩ := unstarted_append.1 unstarted
  obtain ⟨earlier, since⟩ := unstarted_append.1 later
  have whole : Unstarted (before ++ ([] ++ pre)) := unstarted_append.2 ⟨early, earlier⟩
  obtain ⟨nothing, -⟩ | ⟨mid, first, rest, now, rfl, reached, waiting, -, taken⟩ :=
    course rests whole (started_silent rests early : (widget.run (around before url [])).2 = [])
  · exact absurd nothing asked
  obtain ⟨some, channel, unanswered⟩ := taken.of_running running
  have behind := (unstarted_cons.1 (unstarted_append.1 earlier).2).2
  have after : (now.run (.look first :: (rest ++ .abort :: post))).2 =
      .fetch url :: (ending? url (rest ++ .abort :: post)).toList := by
    obtain ⟨_, ⟨⟩, taken⟩ | ⟨-, -, unseen⟩ :=
      waiting_step (.look first) waiting (unstarted_append.2 ⟨behind, since⟩)
    · exact taken.asks some channel
    · exact absurd (.inl some) (unseen rfl).2
  have row : around before url (mid ++ .look first :: rest ++ .abort :: post) =
      (around before url [] ++ mid) ++ .look first :: (rest ++ .abort :: post) := by
    simp [around]
  rw [row, run_append, reached, after, ending_append unanswered]
  rfl

/-- A run that was told to abort while it was under way ends as aborted exactly if it had not asked
for the result yet and takes the abort with its first look after that, for which the look has to
prefer the abort or to find nothing in the channel. One that had asked ends with the reply, as if
nobody had told it. -/
theorem abort_of_result (widget : ResultWidget) (before pre post : List ResultEvent) (url : String)
    (rests : widget.Rests) (once : Unstarted (before ++ (pre ++ .abort :: post)))
    (running : ∀ outcome, .ended outcome ∉ (widget.run (around before url pre)).2) :
    let row := around before url
    let did (events : List ResultEvent) := (widget.run (row events)).2
    (.ended .aborted ∈ did (pre ++ .abort :: post) ↔
        did pre = [] ∧ ∃ mid first rest, post = mid ++ .look first :: rest ∧ ¬Looks mid ∧
          (first = .abort ∨ ¬widget.Confirmed (row (pre ++ .abort :: mid)) ∧
            ¬widget.Closed (row (pre ++ .abort :: mid)))) ∧
      (did pre ≠ [] →
        did (pre ++ .abort :: post) = .fetch url :: (ending? url post).toList) := by
  intro row did
  by_cases silent : did pre = []
  · refine ⟨⟨fun ended => ⟨silent, ?_⟩, ?_⟩, fun asked => absurd silent asked⟩
    · by_cases looks : Looks post
      · obtain ⟨mid, first, rest, rfl, unseen⟩ := exists_first_look looks
        obtain ⟨now, permit, told, taken⟩ := taken_after_abort rests once silent unseen
        have leaves := (taken.aborted_iff permit).1 ended
        rw [told.speaks, not_or] at leaves
        exact ⟨mid, first, rest, rfl, unseen, leaves⟩
      · have nothing : did (pre ++ .abort :: post) = [] :=
          silent_after_abort rests once silent looks
        simp [nothing] at ended
    · rintro ⟨-, mid, first, rest, rfl, unseen, leaves⟩
      obtain ⟨now, permit, told, taken⟩ := taken_after_abort rests once silent unseen
      rw [← not_or, ← told.speaks] at leaves
      exact (taken.aborted_iff permit).2 leaves
  · have asked : did (pre ++ .abort :: post) = .fetch url :: (ending? url post).toList :=
      asked_before_abort rests once silent running
    refine ⟨⟨fun ended => ?_, fun ⟨nothing, _⟩ => absurd nothing silent⟩, fun _ => asked⟩
    rw [asked] at ended
    simp [ending_ne_aborted] at ended

/-- A run that is told to abort while it waits for the result ends with the reply. -/
theorem abort_of_result_of_fetching :
    let widget : ResultWidget := {}
    let url := "http://irma/session/tok/result-jwt"
    let did (events : List ResultEvent) := (widget.run (around [.confirm] url events)).2
    widget.Rests ∧ Unstarted ([.confirm] ++ ([.look] ++ .abort :: [.fetched .none])) ∧
      (∀ outcome, .ended outcome ∉ did [.look]) ∧
      did [.look, .abort, .fetched .none] = [.fetch url, .ended (outcome url .none)] := by
  intro widget url did
  have rests : widget.Rests := by simp [Rests, widget]
  have once : Unstarted ([.confirm] ++ ([.look] ++ .abort :: [.fetched .none])) := by
    simp [Unstarted]
  have asked : did [.look] = [.fetch url] := rfl
  have running (outcome : Outcome) : .ended outcome ∉ did [.look] := by simp [asked]
  obtain ⟨-, ends⟩ :=
    abort_of_result widget [.confirm] [.look] [.fetched .none] url rests once running
  have fetching : did [.look] ≠ [] := asked ▸ List.cons_ne_nil _ _
  exact ⟨rests, once, running, ends fetching⟩

/-- Not every run that is told to abort while it is under way ends as aborted. -/
theorem abort_does_not_end_as_aborted :
    ¬∀ (widget : ResultWidget) (before pre post : List ResultEvent) (url : String)
      (outcome : Outcome),
      widget.Rests → Unstarted (before ++ (pre ++ .abort :: post)) →
      (∀ outcome, .ended outcome ∉ (widget.run (around before url pre)).2) →
      .ended outcome ∈ (widget.run (around before url (pre ++ .abort :: post))).2 →
      outcome = .aborted := by
  intro aborts
  let widget : ResultWidget := {}
  let url := "http://irma/session/tok/result-jwt"
  have rests : widget.Rests := by simp [Rests, widget]
  have once : Unstarted ([.confirm] ++ ([.look] ++ .abort :: [.fetched .none])) := by
    simp [Unstarted]
  have asked : (widget.run (around [.confirm] url [.look])).2 = [.fetch url] := rfl
  have ended : (widget.run (around [.confirm] url ([.look] ++ .abort :: [.fetched .none]))).2 =
    [.fetch url, .ended (outcome url .none)] := rfl
  exact outcome_ne_aborted url .none
    (aborts widget [.confirm] [.look] [.fetched .none] url _ rests once (by simp [asked])
      (by rw [ended]; exact List.mem_cons_of_mem _ List.mem_cons_self))

end DisclosureRelay.Widget.ResultWidget
