import DisclosureRelay.Proofs.Http.Answers
import DisclosureRelay.Proofs.Http.Body
import DisclosureRelay.Proofs.Widget.Inversion
import Mathlib.Data.List.Induction

/-!
# The course of a run that fetches the result

`Told` says that a widget holds what came to it on a row of events, and `told_run` that a widget
which does nothing on a row still holds all that came on it. What the look of a run that waits
brings is listed by `Taken`, and `waiting_run` takes the row of a run apart at the look that takes
something. `course_of_result` puts them together for every row of events and every peer.
-/

namespace DisclosureRelay.Widget.ResultWidget

variable {widget now next : ResultWidget} {event : ResultEvent} {row events : List ResultEvent}
  {effects : List ResultEffect} {url : String}

/-! ## What came to a widget -/

lemma aborted_concat :
    widget.Aborted (events ++ [event]) ↔ widget.Aborted events ∨ event = .abort := by
  rw [Aborted, Aborted, List.mem_append, List.mem_singleton, or_assoc, @eq_comm _ event]

lemma closed_concat :
    widget.Closed (events ++ [event]) ↔ widget.Closed events ∨ event = .close := by
  rw [Closed, Closed, List.mem_append, List.mem_singleton, or_assoc, @eq_comm _ event]

/-- A confirmation came on a row, or it is the last event of the row and the channel still open. -/
lemma confirmed_concat :
    widget.Confirmed (events ++ [event]) ↔
      widget.Confirmed events ∨ event = .confirm ∧ ¬widget.Closed events := by
  unfold Confirmed
  rw [or_assoc]
  refine or_congr_right ⟨?_, ?_⟩
  · rintro ⟨before, after, row, still⟩
    obtain rfl | ⟨rest, last, rfl⟩ := List.eq_nil_or_concat after
    · obtain ⟨rfl, same⟩ := List.append_inj' row rfl
      exact .inr ⟨List.singleton_inj.1 same, still⟩
    · rw [List.concat_eq_append, ← List.cons_append, ← List.append_assoc] at row
      exact .inl ⟨before, rest, (List.append_inj' row rfl).1, still⟩
  · rintro (⟨before, after, rfl, still⟩ | ⟨rfl, still⟩)
    · exact ⟨before, after ++ [event], by simp, still⟩
    · exact ⟨events, [], rfl, still⟩

lemma Aborted.append (aborted : widget.Aborted row) (events : List ResultEvent) :
    widget.Aborted (row ++ events) :=
  aborted.imp_right (List.mem_append_left events)

lemma Closed.append (closed : widget.Closed row) (events : List ResultEvent) :
    widget.Closed (row ++ events) :=
  closed.imp_right (List.mem_append_left events)

lemma Confirmed.append (confirmed : widget.Confirmed row) (events : List ResultEvent) :
    widget.Confirmed (row ++ events) := by
  refine confirmed.imp_right ?_
  rintro ⟨before, after, rfl, still⟩
  exact ⟨before, after ++ events, by simp, still⟩

/-- Once the channel was closed, no confirmation comes any more. -/
lemma Closed.confirmed_append (closed : widget.Closed row) (events : List ResultEvent) :
    widget.Confirmed (row ++ events) ↔ widget.Confirmed row := by
  induction events using List.reverseRecOn with
  | nil => rw [List.append_nil]
  | append_singleton events event ih =>
    rw [← List.append_assoc, confirmed_concat, ih]
    exact or_iff_left fun late => late.2 (closed.append events)

lemma looks_cons : Looks (event :: events) ↔ event.isLook = true ∨ Looks events := by
  simp only [Looks, List.mem_cons, exists_eq_or_imp]

/-- A widget holds what came to it on a row of events. -/
structure Told (widget : ResultWidget) (row : List ResultEvent) (now : ResultWidget) : Prop where
  permit : now.permit = true ↔ widget.Aborted row
  closed : now.closed = true ↔ widget.Closed row
  confirmations : 0 < now.confirmations ↔ widget.Confirmed row

/-- What came to a widget before a row of events is what it holds. -/
lemma told_nil (widget : ResultWidget) : widget.Told [] widget :=
  ⟨by simp [Aborted], by simp [Closed], by simp [Confirmed]⟩

/-- The channel has something for a run if it was confirmed or closed. -/
lemma Told.speaks (told : widget.Told row now) :
    now.Speaks ↔ widget.Confirmed row ∨ widget.Closed row :=
  or_congr told.confirmations told.closed

/-- An event on which a widget does nothing adds to what it holds and takes nothing. -/
lemma Move.told (move : now.Move event next []) (told : widget.Told row now) :
    widget.Told (row ++ [event]) next := by
  refine ⟨?_, ?_, ?_⟩
  · rw [aborted_concat, ← told.permit]
    cases move <;> simp
  · rw [closed_concat, ← told.closed]
    cases move <;> simp
  · rw [confirmed_concat, ← told.confirmations, ← told.closed]
    cases move with
    | confirms still => simp [still]
    | lost full =>
      -- a confirmation is lost in a channel that is closed or has another one
      refine ⟨.inl, ?_⟩
      rintro (some | ⟨-, still⟩)
      · exact some
      · exact full.resolve_left still
    | closes | aborts | starts | busy | goesOn | idles | unasked => simp

/-- A widget that does nothing on a row of events holds all that came on it. -/
theorem told_run (told : widget.Told row now) (silent : (now.run events).2 = []) :
    widget.Told (row ++ events) (now.run events).1 := by
  induction events generalizing row now with
  | nil => simpa [run] using told
  | cons event events ih =>
    rw [run_cons] at silent ⊢
    obtain ⟨first, rest⟩ := List.append_eq_nil_iff.1 silent
    have move := now.step_move event
    rw [first] at move
    simpa using ih (move.told told) rest

/-! ## The look that takes something -/

/-- What a run takes when it looks, with what comes of it on the events after that. -/
inductive Taken (now : ResultWidget) (url : String) (first : Signal) (rest : List ResultEvent) :
    List ResultEffect → Prop where
  | abort :
    now.permit = true → first = .abort ∨ ¬now.Speaks →
    Taken now url first rest [.ended .aborted]
  | confirmation :
    0 < now.confirmations → (now.permit = true → first = .channel) →
    Taken now url first rest (.fetch url :: (ending? url rest).toList)
  | closing :
    now.confirmations = 0 → now.closed = true → (now.permit = true → first = .channel) →
    Taken now url first rest [.ended (.failed "Confirmation source closed")]

/-- A run that waits takes something when it looks, or goes on waiting and does nothing; at a look
it only does so if it was told nothing. -/
lemma waiting_step (event : ResultEvent) (waiting : now.stage = .waiting url)
    (unstarted : Unstarted events) :
    (∃ first, event = .look first ∧ Taken now url first events (now.run (event :: events)).2) ∨
      (now.step event).2 = [] ∧ (now.step event).1.stage = .waiting url ∧
        (event.isLook = true → now.permit = false ∧ ¬now.Speaks) := by
  have busy : ¬now.Rests := fun rests => (rests url).1 waiting
  have ended {last : ResultWidget} (rests : last.Rests) : (last.run events).2 = [] :=
    (rests_run rests unstarted).1
  rw [run_cons]
  have move := now.step_move event
  generalize now.step event = after at move ⊢
  obtain ⟨next, effects⟩ := after
  cases move with
  | confirms | closes | aborts | lost | busy | unasked => exact .inr ⟨rfl, waiting, by simp⟩
  | starts rests => exact absurd rests busy
  | ends fetching => simp [waiting] at fetching
  | stops _ permit leaves =>
    rw [ended (by simp [Rests])]
    exact .inl ⟨_, rfl, .abort permit leaves⟩
  | receives own some channel =>
    cases waiting.symm.trans own
    rw [fetching_run rfl unstarted]
    exact .inl ⟨_, rfl, .confirmation some channel⟩
  | fails _ none closed channel =>
    rw [ended (by simp [Rests])]
    exact .inl ⟨_, rfl, .closing none closed channel⟩
  | goesOn _ permit mute => exact .inr ⟨rfl, waiting, fun _ => ⟨permit, mute⟩⟩
  | idles others => exact absurd waiting (others url)

/-- What a widget was told is not taken back by an event on which it does nothing. -/
lemma Move.keeps (move : now.Move event next []) :
    (now.permit = true → next.permit = true) ∧ (now.Speaks → next.Speaks) := by
  cases move with
  | confirms => exact ⟨id, .imp_left Nat.lt_succ_of_lt⟩
  | closes => exact ⟨id, fun _ => .inr rfl⟩
  | aborts => exact ⟨fun _ => rfl, id⟩
  | starts => exact ⟨id, id⟩
  | lost | busy | goesOn | idles | unasked => exact ⟨id, id⟩

/-- A run that waits does nothing on a row of events, on which it does not look if it was told
something, or it takes something at one of its looks. -/
theorem waiting_run (waiting : now.stage = .waiting url) (unstarted : Unstarted events) :
    ((now.run events).2 = [] ∧ (now.run events).1.stage = .waiting url ∧
        (Looks events → now.permit = false ∧ ¬now.Speaks)) ∨
      ∃ mid first rest, events = mid ++ .look first :: rest ∧ (now.run mid).2 = [] ∧
        (now.run mid).1.stage = .waiting url ∧
        Taken (now.run mid).1 url first rest (now.run events).2 := by
  induction events generalizing now with
  | nil => exact .inl ⟨rfl, waiting, by simp [Looks]⟩
  | cons event events ih =>
    have later := (unstarted_cons.1 unstarted).2
    obtain ⟨first, rfl, taken⟩ | ⟨silent, still, unseen⟩ := waiting_step event waiting later
    · exact .inr ⟨[], first, events, rfl, rfl, waiting, taken⟩
    have skip (row : List ResultEvent) : now.run (event :: row) = (now.step event).1.run row := by
      rw [run_cons, silent]
      rfl
    obtain ⟨nothing, waits, told⟩ | ⟨mid, first, rest, rfl, nothing, waits, taken⟩ := ih still later
    · refine .inl ⟨by rw [skip, nothing], by rw [skip, waits], fun looks => ?_⟩
      have move := now.step_move event
      rw [silent] at move
      obtain ⟨permits, speaks⟩ := move.keeps
      obtain own | looks := looks_cons.1 looks
      · exact unseen own
      · obtain ⟨permit, mute⟩ := told looks
        exact ⟨Bool.eq_false_iff.2 fun some => Bool.eq_false_iff.1 permit (permits some),
          mt speaks mute⟩
    · refine .inr ⟨event :: mid, first, rest, rfl, ?_⟩
      rw [skip, skip]
      exact ⟨nothing, waits, taken⟩

lemma Taken.ne_nil {first : Signal} {rest : List ResultEvent}
    (taken : Taken now url first rest effects) : effects ≠ [] := by
  cases taken <;> simp

/-! ## The run -/

variable {before pre post : List ResultEvent}

/-- A widget without a run starts one, which waits. -/
lemma Rests.starts (rests : widget.Rests) (url : String) :
    (widget.step (.start url)).2 = [] ∧ (widget.step (.start url)).1.stage = .waiting url := by
  have move := widget.step_move (.start url)
  generalize widget.step (.start url) = after at move ⊢
  obtain ⟨next, effects⟩ := after
  cases move with
  | starts => exact ⟨rfl, rfl⟩
  | busy busy => exact absurd rests busy

/-- A run that was just started did nothing. -/
lemma started_silent (rests : widget.Rests) (unstarted : Unstarted before) :
    (widget.run (around before url [])).2 = [] := by
  obtain ⟨nothing, rests⟩ := rests_run rests unstarted
  rw [around, run_append, run_cons, nothing, (rests.starts url).1]
  rfl

/-- A run that did nothing since it was started waits, and the widget holds what came to it. -/
lemma underway (rests : widget.Rests) (unstarted : Unstarted (before ++ pre))
    (silent : (widget.run (around before url pre)).2 = []) :
    (widget.run (around before url pre)).1.stage = .waiting url ∧
      widget.Told (around before url pre) (widget.run (around before url pre)).1 := by
  obtain ⟨early, later⟩ := unstarted_append.1 unstarted
  refine ⟨?_, told_run widget.told_nil silent⟩
  obtain ⟨nothing, rests⟩ := rests_run rests early
  obtain ⟨starts, waiting⟩ := rests.starts url
  rw [around, run_append, run_cons, nothing, starts] at silent
  rw [around, run_append, run_cons]
  obtain ⟨-, waits, -⟩ | ⟨_, _, _, -, -, -, taken⟩ := waiting_run waiting later
  · exact waits
  · exact absurd silent taken.ne_nil

/-- A run that did nothing since it was started goes on waiting, if it does not look once it was
told something, or it takes something at one of its looks. -/
theorem course (rests : widget.Rests) (unstarted : Unstarted (before ++ (pre ++ post)))
    (silent : (widget.run (around before url pre)).2 = []) :
    ((widget.run (around before url (pre ++ post))).2 = [] ∧
        (Looks post → ¬widget.Aborted (around before url pre) ∧
          ¬widget.Confirmed (around before url pre) ∧ ¬widget.Closed (around before url pre))) ∨
      ∃ mid first rest now, post = mid ++ .look first :: rest ∧
        widget.run (around before url pre ++ mid) = (now, []) ∧ now.stage = .waiting url ∧
        widget.Told (around before url pre ++ mid) now ∧
        Taken now url first rest (widget.run (around before url (pre ++ post))).2 := by
  rw [← List.append_assoc] at unstarted
  obtain ⟨early, later⟩ := unstarted_append.1 unstarted
  obtain ⟨waiting, told⟩ := underway rests early silent
  rw [around_append, run_of_silent silent]
  obtain ⟨nothing, -, unseen⟩ | ⟨mid, first, rest, rfl, nothing, waits, taken⟩ :=
    waiting_run waiting later
  · refine .inl ⟨nothing, fun looks => ?_⟩
    obtain ⟨permit, mute⟩ := unseen looks
    rw [told.speaks, not_or] at mute
    exact ⟨by simp [← told.permit, permit], mute⟩
  · exact .inr ⟨mid, first, rest, _, rfl, by rw [run_of_silent silent, ← nothing], waits,
      told_run told nothing, taken⟩

/-- What a run takes if an abort never meets something in the channel, with what came to the widget
before. -/
inductive Decision (widget : ResultWidget) (url : String) (row rest : List ResultEvent) :
    List ResultEffect → Prop where
  | aborted :
    widget.Aborted row → ¬widget.Confirmed row → ¬widget.Closed row →
    Decision widget url row rest [.ended .aborted]
  | confirmed :
    ¬widget.Aborted row → widget.Confirmed row →
    Decision widget url row rest (.fetch url :: (ending? url rest).toList)
  | closed :
    ¬widget.Aborted row → ¬widget.Confirmed row → widget.Closed row →
    Decision widget url row rest [.ended (.failed "Confirmation source closed")]

/-- A run that waits and finds an abort when it looks finds nothing in the channel. -/
lemma Apart.alone {first : Signal} {rest : List ResultEvent}
    (apart : widget.Apart (row ++ .look first :: rest)) (reached : widget.run row = (now, effects))
    (waiting : now.stage = .waiting url) (permit : now.permit = true) : ¬now.Speaks := by
  intro speaks
  refine apart ⟨row, .look first, rest, rfl, rfl, ?_⟩
  have here : (Machine.run step widget row).1 = now := congrArg Prod.fst reached
  rw [here]
  exact ⟨⟨url, waiting⟩, permit, speaks⟩

lemma Taken.decision {first : Signal} {rest : List ResultEvent}
    (taken : Taken now url first rest effects) (told : widget.Told row now)
    (alone : now.permit = true → ¬now.Speaks) : Decision widget url row rest effects := by
  rw [told.permit, told.speaks, not_or] at alone
  cases taken with
  | abort permit _ =>
    have aborted := told.permit.1 permit
    exact .aborted aborted (alone aborted).1 (alone aborted).2
  | confirmation some _ =>
    have confirmed := told.confirmations.1 some
    exact .confirmed (fun aborted => (alone aborted).1 confirmed) confirmed
  | closing none closed _ =>
    have closed := told.closed.1 closed
    refine .closed (fun aborted => (alone aborted).2 closed) ?_ closed
    rw [← told.confirmations, none]
    exact Nat.lt_irrefl 0

/-- A run that did nothing since it was started goes on waiting, if it does not look once it was
told something, or what it takes is decided by what came to the widget. -/
theorem decided (rests : widget.Rests) (unstarted : Unstarted (before ++ (pre ++ post)))
    (apart : widget.Apart (around before url (pre ++ post)))
    (silent : (widget.run (around before url pre)).2 = []) :
    ((widget.run (around before url (pre ++ post))).2 = [] ∧
        (Looks post → ¬widget.Aborted (around before url pre) ∧
          ¬widget.Confirmed (around before url pre) ∧ ¬widget.Closed (around before url pre))) ∨
      ∃ mid first rest, post = mid ++ .look first :: rest ∧
        (widget.run (around before url pre ++ mid)).2 = [] ∧
        Decision widget url (around before url pre ++ mid) rest
          (widget.run (around before url (pre ++ post))).2 := by
  obtain waits | ⟨mid, first, rest, now, rfl, reached, waiting, told, taken⟩ :=
    course rests unstarted silent
  · exact .inl waits
  · rw [around_append, ← List.append_assoc] at apart
    exact .inr ⟨mid, first, rest, rfl, congrArg Prod.snd reached,
      taken.decision told (apart.alone reached waiting)⟩

namespace Decision

variable {rest : List ResultEvent}

lemma of_aborted (decision : Decision widget url row rest effects) (aborted : widget.Aborted row) :
    effects = [.ended .aborted] := by
  cases decision with
  | aborted => rfl
  | confirmed spared | closed spared => exact absurd aborted spared

lemma of_confirmed (decision : Decision widget url row rest effects)
    (confirmed : widget.Confirmed row) : effects = .fetch url :: (ending? url rest).toList := by
  cases decision with
  | confirmed => rfl
  | aborted _ unconfirmed | closed _ unconfirmed => exact absurd confirmed unconfirmed

lemma of_closed (decision : Decision widget url row rest effects)
    (unconfirmed : ¬widget.Confirmed row) (closed : widget.Closed row) :
    effects = [.ended (.failed "Confirmation source closed")] := by
  cases decision with
  | closed => rfl
  | aborted _ _ still => exact absurd closed still
  | confirmed _ confirmed => exact absurd confirmed unconfirmed

/-- Only a run that was confirmed asks for the result. -/
lemma asks (decision : Decision widget url row rest effects) :
    fetches effects = [] ∨ widget.Confirmed row := by
  cases decision with
  | aborted | closed => exact .inl rfl
  | confirmed _ confirmed => exact .inr confirmed

end Decision

/-- A run that asked for the result asked once. -/
lemma fetches_fetch (url : String) (events : List ResultEvent) :
    fetches (.fetch url :: (ending? url events).toList) = [url] := by
  cases told : ending? url events with
  | none => rfl
  | some effect =>
    obtain ⟨reply, -, rfl⟩ := Option.map_eq_some_iff.1 told
    rfl

/-! ## The result -/

/-- A run that fetches the result completes with the text of the body that a reply brings. -/
lemma outcome_of_brings {reply : Http.Reply} {body : Http.Body} (brings : Brings url reply body) :
    outcome url reply = .completed body.text := by
  obtain ⟨status, arrived, success⟩ := brings
  have received := Http.received_eq_ok.2 arrived
  simp [outcome, received, Http.isSuccess, success]

/-- A run that fetches the result fails on a reply that brings none. -/
lemma outcome_of_not_brings {reply : Http.Reply} (nothing : ∀ body, ¬Brings url reply body) :
    ∃ reason, outcome url reply = .failed reason := by
  unfold outcome
  cases received : Http.received url reply with
  | error fault => exact ⟨_, rfl⟩
  | ok answer =>
    obtain ⟨status, body⟩ := answer
    have arrived := Http.received_eq_ok.1 received
    dsimp only
    split
    · next success =>
      cases body with
      | none => exact ⟨_, rfl⟩
      | some body =>
        have brings : Brings url reply body :=
          ⟨status, arrived, by simpa [Http.isSuccess] using success⟩
        exact absurd brings (nothing body)
    · exact ⟨_, rfl⟩

/-- What the reply to the request for the result brings decides how a run ends. -/
theorem outcome_of_reply (url : String) (reply : Http.Reply) :
    (∀ token, outcome url reply = .completed token ↔
        ∃ body, Brings url reply body ∧ token = body.text) ∧
      ((∃ reason, outcome url reply = .failed reason) ↔ ∀ body, ¬Brings url reply body) := by
  by_cases brings : ∃ body, Brings url reply body
  · obtain ⟨body, brings⟩ := brings
    have completes := outcome_of_brings brings
    refine ⟨fun token => ⟨fun ended => ?_, ?_⟩, ?_⟩
    · rw [completes] at ended
      exact ⟨body, brings, (Outcome.completed.inj ended).symm⟩
    · rintro ⟨body, brings, rfl⟩
      exact outcome_of_brings brings
    · simp only [completes, reduceCtorEq, exists_false, false_iff, not_forall, not_not]
      exact ⟨body, brings⟩
  · have nothing := not_exists.1 brings
    obtain ⟨reason, fails⟩ := outcome_of_not_brings nothing
    refine ⟨fun token => ?_, fun _ => nothing, fun _ => ⟨reason, fails⟩⟩
    rw [fails]
    exact ⟨nofun, fun ⟨body, brings, _⟩ => absurd brings (nothing body)⟩

/-- The request for the result is one GET. -/
lemma request_eq_ok {sent : Http.Request} :
    request url = .ok sent ↔
      ∃ address, Http.webAddress url = .ok address ∧
        sent = { method := .get, url := address, contentType := none, body := "" } :=
  Http.prepare_eq_ok

lemma brings_ask (network : Http.Network) (limitMs : Nat) (body : Http.Body) :
    Brings url (network.ask limitMs (request url)).reply body ↔
      ∃ status, network.Answers limitMs (request url) status (some body) ∧ 200 ≤ status ∧
        status < 300 :=
  exists_congr fun _ => and_congr_left' (Http.Network.arrived_ask network limitMs)

/-- A run asks for the result once at most, by a GET to the place it was given, and only after it
took a confirmation. It never asks if before that an abort came, also one before the run, or the
channel was closed while it was empty, and ends with its next look; a confirmation that came before
the channel was closed is still taken. A run that asked ends with the first reply: it completes with
the text that the body spells if an answer of success arrived whole, and fails otherwise. On a
network the question is one request and the answer is its own, unless that redirects. -/
theorem course_of_result (widget : ResultWidget) (before after : List ResultEvent) (url : String)
    (rests : widget.Rests) (once : Unstarted (before ++ after))
    (apart : widget.Apart (around before url after)) :
    let row := around before url
    let did (events : List ResultEvent) := (widget.run (row events)).2
    (fetches (did after) = [] ∨ fetches (did after) = [url] ∧
        ∃ pre first post, after = pre ++ .look first :: post ∧ did pre = [] ∧
          widget.Confirmed (row pre) ∧ did after = .fetch url :: (ending? url post).toList) ∧
      (∀ pre post, after = pre ++ post → did pre = [] →
        (widget.Aborted (row pre) →
          fetches (did after) = [] ∧ (Looks post → did after = [.ended .aborted])) ∧
        (widget.Closed (row pre) → ¬widget.Confirmed (row pre) →
          fetches (did after) = [] ∧
            (Looks post → did after = [.ended (.failed "Confirmation source closed")])) ∧
        (widget.Confirmed (row pre) → Looks post → fetches (did after) = [url])) ∧
      (∀ reply,
        (∀ token, outcome url reply = .completed token ↔
          ∃ body, Brings url reply body ∧ token = body.text) ∧
        ((∃ reason, outcome url reply = .failed reason) ↔ ∀ body, ¬Brings url reply body)) ∧
      (∀ (body : Http.Body) text, body.Spells text → body.text = text) ∧
      (∀ sent, request url = .ok sent ↔
        ∃ address, Http.webAddress url = .ok address ∧
          sent = { method := .get, url := address, contentType := none, body := "" }) ∧
      ∀ (network : Http.Network) limitMs,
        let asked := network.ask limitMs (request url)
        network.Sends (request url) asked.sent ∧
          (∀ body, Brings url asked.reply body ↔
            ∃ status, network.Answers limitMs (request url) status (some body) ∧ 200 ≤ status ∧
              status < 300) ∧
          (network.Direct (request url) →
            asked.sent = (request url).toOption.toList ∧
              ∀ status body, network.Answers limitMs (request url) status body ↔
                network.Replies limitMs (request url) status body) := by
  intro row did
  refine ⟨?_, ?_, outcome_of_reply url, fun body text => Http.Body.text_of_spells,
    fun sent => request_eq_ok, fun network limitMs => ⟨network.sends_ask limitMs _,
      brings_ask network limitMs, fun direct => ⟨(direct.sent_ask limitMs).1,
        fun status body => direct.answers_iff⟩⟩⟩
  · have silent : did [] = [] := started_silent rests (unstarted_append.1 once).1
    have whole : Unstarted (before ++ ([] ++ after)) := once
    obtain ⟨nothing, -⟩ | ⟨mid, first, rest, rfl, before, decision⟩ :=
      decided rests whole apart silent
    · exact .inl (congrArg fetches nothing)
    · rw [← around_append] at before decision
      obtain none | confirmed := decision.asks
      · exact .inl none
      · have asked := decision.of_confirmed confirmed
        exact .inr ⟨(congrArg fetches asked).trans (fetches_fetch url rest), mid, first, rest, rfl,
          before, confirmed, asked⟩
  · rintro pre post rfl silent
    obtain ⟨nothing, unseen⟩ | ⟨mid, first, rest, rfl, -, decision⟩ :=
      decided rests once apart silent
    · have none : fetches (did (pre ++ post)) = [] := congrArg fetches nothing
      refine ⟨fun aborted => ⟨none, fun looks => ?_⟩, fun closed _ => ⟨none, fun looks => ?_⟩,
        fun confirmed looks => ?_⟩
      · exact absurd aborted (unseen looks).1
      · exact absurd closed (unseen looks).2.2
      · exact absurd confirmed (unseen looks).2.1
    · refine ⟨fun aborted => ?_, fun closed unconfirmed => ?_, fun confirmed _ => ?_⟩
      · have ended := decision.of_aborted (aborted.append mid)
        exact ⟨congrArg fetches ended, fun _ => ended⟩
      · have unconfirmed := mt (closed.confirmed_append mid).1 unconfirmed
        have ended := decision.of_closed unconfirmed (closed.append mid)
        exact ⟨congrArg fetches ended, fun _ => ended⟩
      · have asked := decision.of_confirmed (confirmed.append mid)
        exact (congrArg fetches asked).trans (fetches_fetch url rest)

/-- A confirmation that is queued when the channel is closed is not lost, and the body of the answer
is the token. -/
theorem course_of_result_of_queued_confirmation :
    let widget : ResultWidget := {}
    let url := "http://irma/session/tok/result-jwt"
    let body : Http.Body := { bytes := "jwt".toUTF8 }
    let found : Http.Answer := { status := 200, body := some body }
    let network : Http.Network :=
      .answering (fun _ => { seen := true, delayMs := 20, answer := some found }) []
    let asked := network.ask 10000 (request url)
    widget.Rests ∧ Unstarted ([.confirm, .close] ++ [.look]) ∧
      widget.Apart (around [.confirm, .close] url [.look]) ∧
      fetches (widget.run (around [.confirm, .close] url [.look])).2 = [url] ∧
      asked.sent =
        [{ method := .get
           url := { scheme := "http", host := some "irma", path := "/session/tok/result-jwt"
                    query := none, fragment := none }
           contentType := none, body := "" }] ∧
      outcome url asked.reply = .completed "jwt" := by
  intro widget url body found network asked
  have rests : widget.Rests := by simp [Rests, widget]
  have once : Unstarted ([.confirm, .close] ++ [.look]) := by simp [Unstarted]
  have apart : widget.Apart (around [.confirm, .close] url [.look]) := by
    simp [Apart, around, Machine.meets_cons, step, widget]
  obtain ⟨-, cuts, results, texts, requests, networks⟩ :=
    course_of_result widget [.confirm, .close] [.look] url rests once apart
  have confirmed : widget.Confirmed (around [.confirm, .close] url []) :=
    .inr ⟨[], [.close, .start url], rfl, by simp [Closed, widget]⟩
  refine ⟨rests, once, apart, (cuts [] [.look] rfl rfl).2.2 confirmed ⟨.look, by simp, rfl⟩, ?_⟩
  have web : Http.webAddress "http://irma/session/tok/result-jwt" = .ok
      { scheme := "http", host := some "irma", path := "/session/tok/result-jwt"
        query := none, fragment := none } := by rfl
  have get := (requests _).2 ⟨_, web, rfl⟩
  obtain ⟨-, brings, direct⟩ := networks network 10000
  have direct := direct fun _ _ _ _ came redirects => by
    cases came
    cases redirects with
    | elsewhere status | again status => simp [found] at status
  have brought : Brings url asked.reply body :=
    (brings body).2 ⟨200, (direct.2 _ _).2 ⟨_, none, get, by decide, rfl⟩, by decide, by decide⟩
  have unmarked : body.Unmarked := by
    rintro (_ | _ | _) <;> decide
  have spelled := texts body "jwt" (.plain unmarked rfl rfl)
  refine ⟨direct.1.trans ?_, ((results asked.reply).1 "jwt").2 ⟨body, brought, spelled.symm⟩⟩
  rw [get]
  rfl

end DisclosureRelay.Widget.ResultWidget
