import DisclosureRelay.Proofs.Assertion.Verdict
import DisclosureRelay.Report.History
import Mathlib.Data.List.Induction

/-!
# The latch of a reporter

The first call raises the latch and is the only one that posts; it ends with what the first reply
to it means. Every other call ends at once, whatever became of the first one. `Latched` says so of a
reporter after its first call, `Latched.step` that every event keeps it, and `latch_of_reporter` puts
it together for every row of events.
-/

namespace DisclosureRelay.Reporter

/-- How a report that was posted ends depends on whether an answer arrived, and on nothing in it. -/
lemma conclude_iff (url : String) (reply : Http.Reply) :
    (conclude url reply = .ok true ↔ ∃ status body, Http.Arrived url reply status body) ∧
      ((∃ fault, conclude url reply = .error (.transport fault)) ↔
        ¬∃ status body, Http.Arrived url reply status body) := by
  unfold conclude
  obtain ⟨status, body, arrived, received⟩ | ⟨fault, nothing, received⟩ :=
    JsonAnswer.received_cases url reply
  · have some : ∃ status body, Http.Arrived url reply status body := ⟨status, body, arrived⟩
    simp [received, some]
  · have none : ¬∃ status body, Http.Arrived url reply status body :=
      fun ⟨status, body, arrived⟩ => nothing status body arrived
    simp [received, none]

@[simp] lemma moveTo_calls (r : Reporter) (id other : ReportId) (stage : ReportStage) :
    (r.moveTo id stage).calls other = if other = id then some stage else r.calls other := rfl

lemma made_concat {events : List Event} {event : Event} {id : ReportId} :
    Made (events ++ [event]) id ↔ Made events id ∨ ∃ report, event = .report id report := by
  simp [Made, exists_or, eq_comm]

/-- A reporter after its first call, with the events after that and what was done. -/
structure Latched (url : String) (first : ReportId) (body : String) (after : List Event)
    (r : Reporter) (did : List Effect) : Prop where
  address : r.url = url
  raised : r.reported = true
  posted : posts did = [(first, body)]
  own : r.calls first = some
    (((firstReply? first after).map fun reply => .ended (conclude url reply)).getD .posting)
  others : ∀ id, id ≠ first →
    r.calls id = some (.ended (.ok false)) ∧ Made after id ∨ r.calls id = none ∧ ¬Made after id
  ends : ∀ id result, (id, result) ∈ results did ↔ r.calls id = some (.ended result)
  once : ((results did).map (·.1)).Nodup

namespace Latched

variable {url : String} {first : ReportId} {body : String} {after : List Event} {r : Reporter}
  {did : List Effect} {event : Event}

/-- An event that no call waits for changes nothing. -/
lemma stays (latched : Latched url first body after r did)
    (told : firstReply? first (after ++ [event]) = firstReply? first after)
    (made : ∀ id, id ≠ first → (Made (after ++ [event]) id ↔ Made after id)) :
    Latched url first body (after ++ [event]) r (did ++ []) := by
  rw [List.append_nil]
  refine { latched with own := told ▸ latched.own, others := fun id other => ?_ }
  rw [made id other]
  exact latched.others id other

/-- A call that ends is one result more. -/
lemma results_finish (latched : Latched url first body after r did) {id : ReportId}
    (pending : ∀ result, r.calls id ≠ some (.ended result)) (result : Except Failure Bool) :
    (∀ other ended, (other, ended) ∈ results (did ++ [.finish id result]) ↔
        (r.moveTo id (.ended result)).calls other = some (.ended ended)) ∧
      ((results (did ++ [.finish id result])).map (·.1)).Nodup := by
  have one : results [.finish id result] = [(id, result)] := rfl
  have new : id ∉ (results did).map (·.1) := by
    intro mem
    obtain ⟨⟨other, ended⟩, held, rfl⟩ := List.mem_map.1 mem
    exact pending ended ((latched.ends _ _).1 held)
  constructor
  · intro other ended
    rw [results_append, one, List.mem_append, List.mem_singleton, latched.ends, moveTo_calls]
    by_cases same : other = id
    · subst same
      simp [pending, eq_comm]
    · simp [same]
  · rw [results_append, one, List.map_append, List.map_singleton]
    refine List.nodup_append.2 ⟨latched.once, by simp, ?_⟩
    rintro other held last mem rfl
    obtain rfl : other = id := by simpa using mem
    exact new held

/-- Every call after the first one is dropped, whatever became of that one. -/
lemma dropped (latched : Latched url first body after r did) {id : ReportId} {report : Report}
    (new : r.calls id = none) :
    Latched url first body (after ++ [.report id report]) (r.finish id (.ok false)).1
      (did ++ (r.finish id (.ok false)).2) := by
  have other : id ≠ first := by
    rintro rfl
    simp [latched.own] at new
  have pending : ∀ result, r.calls id ≠ some (.ended result) := by simp [new]
  obtain ⟨ends, once⟩ := latched.results_finish pending (.ok false)
  refine ⟨latched.address, latched.raised, ?_, ?_, ?_, ends, once⟩
  · rw [posts_append, latched.posted]
    rfl
  · simp [finish, firstReply?_concat, Event.replyTo?, other.symm, latched.own]
  · intro call apart
    rw [made_concat]
    by_cases same : call = id
    · subst same
      exact .inl ⟨by simp [finish], .inr ⟨report, rfl⟩⟩
    · simpa [finish, same, Ne.symm same] using latched.others call apart

/-- The first reply to the first call ends it. -/
lemma concluded (latched : Latched url first body after r did) {reply : Http.Reply}
    (waits : firstReply? first after = none) :
    Latched url first body (after ++ [.replied first reply])
      (r.finish first (conclude url reply)).1
      (did ++ (r.finish first (conclude url reply)).2) := by
  have posting : r.calls first = some .posting := by simpa [waits] using latched.own
  have pending : ∀ result, r.calls first ≠ some (.ended result) := by simp [posting]
  obtain ⟨ends, once⟩ := latched.results_finish pending (conclude url reply)
  refine ⟨latched.address, latched.raised, ?_, ?_, ?_, ends, once⟩
  · rw [posts_append, latched.posted]
    rfl
  · simp [finish, firstReply?_concat, waits, Event.replyTo?]
  · intro call apart
    simpa [finish, apart, made_concat] using latched.others call apart

/-- Every event keeps the latch up, and what was posted. -/
theorem step (latched : Latched url first body after r did) (event : Event) :
    Latched url first body (after ++ [event]) (r.step event).1 (did ++ (r.step event).2) := by
  cases event with
  | report id report =>
    unfold Reporter.step
    dsimp only
    split
    · next stage made =>
      refine latched.stays (by simp [firstReply?_concat, Event.replyTo?]) fun call apart => ?_
      rw [made_concat, or_iff_left_of_imp]
      rintro ⟨_, ⟨⟩⟩
      obtain ⟨-, before⟩ | ⟨new, -⟩ := latched.others _ apart
      · exact before
      · simp [new] at made
    · next new =>
      rw [if_pos latched.raised]
      exact latched.dropped new
  | replied id reply =>
    have silent : ∀ call, call ≠ first →
        (Made (after ++ [.replied id reply]) call ↔ Made after call) := by
      simp [made_concat]
    unfold Reporter.step
    dsimp only
    split
    · next posting =>
      -- nobody but the first call ever posts
      obtain rfl : id = first := by
        by_contra other
        obtain ⟨ended, -⟩ | ⟨new, -⟩ := latched.others id other <;> simp_all
      rw [latched.address]
      refine latched.concluded ?_
      have own := latched.own
      cases told : firstReply? id after with
      | none => rfl
      | some reply => simp [told, posting] at own
    · next idle =>
      refine latched.stays ?_ silent
      rw [firstReply?_concat]
      cases told : firstReply? first after with
      | some reply => rfl
      | none =>
        have other : id ≠ first := by
          rintro rfl
          exact idle (by simpa [told] using latched.own)
        simp [Event.replyTo?, other]

end Latched

variable {url : String} {events before after : List Event} {first : ReportId} {report : Report}

/-- Before the first call nothing happens to a reporter. -/
lemma reached_silent (silent : ∀ id, ¬Made events id) :
    reached url events = { url } ∧ done url events = [] := by
  induction events using List.reverseRecOn with
  | nil => exact ⟨rfl, rfl⟩
  | append_singleton events event ih =>
    obtain ⟨state, nothing⟩ := ih fun id made => silent id (made_concat.2 (.inl made))
    rw [reached_concat, done_concat, state, nothing]
    cases event with
    | report id report => exact absurd (made_concat.2 (.inr ⟨report, rfl⟩)) (silent id)
    | replied id reply => exact ⟨rfl, rfl⟩

lemma exists_first {id : ReportId} (made : Made events id) :
    ∃ before first report after, events = before ++ .report first report :: after ∧
      ∀ id, ¬Made before id := by
  obtain ⟨report, mem⟩ := made
  induction events with
  | nil => cases mem
  | cons event events ih =>
    cases event with
    | report first report => exact ⟨[], first, report, events, rfl, by simp [Made]⟩
    | replied other reply =>
      obtain ⟨before, first, report, after, rfl, silent⟩ := ih (by simpa using mem)
      exact ⟨.replied other reply :: before, first, report, after, rfl,
        by simpa [Made] using silent⟩

/-- After its first call a reporter is latched. -/
theorem latched_reached (silent : ∀ id, ¬Made before id) (after : List Event) :
    Latched url first report.json.print after
      (reached url (before ++ .report first report :: after))
      (done url (before ++ .report first report :: after)) := by
  induction after using List.reverseRecOn with
  | nil =>
    obtain ⟨state, nothing⟩ : reached url before = { url } ∧ done url before = [] :=
      reached_silent silent
    rw [reached_concat, done_concat, state, nothing]
    refine ⟨rfl, rfl, rfl, by simp [Reporter.step, firstReply?], fun id other => .inr ⟨?_, ?_⟩, ?_,
      List.nodup_nil⟩
    · simp [Reporter.step, other]
    · simp [Made]
    · intro id result
      by_cases own : id = first <;> simp [Reporter.step, results, own]
  | append_singleton after event ih =>
    rw [← List.cons_append, ← List.append_assoc, reached_concat, done_concat]
    exact ih.step event

/-- The latch is up exactly if a call was made, whatever became of that call. -/
lemma reported_iff : (reached url events).reported = true ↔ ∃ id, Made events id := by
  constructor
  · intro raised
    by_contra silent
    rw [(reached_silent fun id made => silent ⟨id, made⟩).1] at raised
    cases raised
  · rintro ⟨id, made⟩
    obtain ⟨before, first, report, after, rfl, silent⟩ := exists_first made
    exact (latched_reached silent after).raised

/-- How a post on a network ends depends on whether the client comes to an answer. -/
lemma conclude_ask (url body : String) (network : Http.Network) (limitMs : Nat) :
    let request := Http.postJson url body
    let result := conclude url (network.ask limitMs request).reply
    (result = .ok true ↔ ∃ status body, network.Answers limitMs request status body) ∧
      ((∃ fault, result = .error (.transport fault)) ↔
        ¬∃ status body, network.Answers limitMs request status body) := by
  intro request result
  have arrives : (∃ status body, Http.Arrived url (network.ask limitMs request).reply status body) ↔
      ∃ status body, network.Answers limitMs request status body :=
    exists_congr fun _ => exists_congr fun _ => Http.Network.arrived_ask network limitMs
  rw [← arrives]
  exact conclude_iff url _

/-- The request of a post goes to the address of reports, if that can be asked at all. -/
lemma requests_post {effects : List Effect} {id : ReportId} {body : String}
    (posted : posts effects = [(id, body)]) :
    requests url effects = (Http.postJson url body).toOption.toList := by
  rw [requests, posted]
  cases sent : Http.postJson url body <;> simp [sent, Except.toOption]

/-- A reporter posts the report of its first call to the address of reports, if that can be asked at
all, and nothing else; that call ends with the first reply to it, well if any answer arrived and with
a failure of the transport otherwise, and every other call ends at once, having posted nothing. On a
network the post is one request, and an answer arrives if one comes in time; only if it redirects,
the client sends more, and the answer that it comes to in the end is the one that counts. -/
theorem latch_of_reporter (url : String) (events : List Event) :
    ((reached url events).reported = true ↔ ∃ id, Made events id) ∧
      ((∀ id, ¬Made events id) → done url events = []) ∧
      (∀ reply,
        (conclude url reply = .ok true ↔ ∃ status body, Http.Arrived url reply status body) ∧
          ((∃ fault, conclude url reply = .error (.transport fault)) ↔
            ¬∃ status body, Http.Arrived url reply status body)) ∧
      ∀ before first report after, events = before ++ .report first report :: after →
        (∀ id, ¬Made before id) →
        (∀ address, Http.webAddress url = .ok address →
          requests url (done url events) =
            [{ method := .post, url := address, contentType := some "application/json"
               body := Json.print <| .object
                 [("message", .text report.message), ("source", .text report.source),
                  ("lineno", .natural report.line), ("colno", .natural report.column)] }]) ∧
          (∀ fault, Http.webAddress url = .error fault → requests url (done url events) = []) ∧
          (∀ result, (first, result) ∈ results (done url events) ↔
            ∃ reply, firstReply? first after = some reply ∧ result = conclude url reply) ∧
          (∀ id result, id ≠ first →
            ((id, result) ∈ results (done url events) ↔ Made after id ∧ result = .ok false)) ∧
          ((results (done url events)).map (·.1)).Nodup ∧
          ∀ (network : Http.Network) limitMs,
            let request := (reached url events).request report.json.print
            let asked := network.ask limitMs request
            let result := conclude url asked.reply
            network.Sends request asked.sent ∧
              (result = .ok true ↔ ∃ status body, network.Answers limitMs request status body) ∧
              ((∃ fault, result = .error (.transport fault)) ↔
                ¬∃ status body, network.Answers limitMs request status body) ∧
              (network.Direct request →
                asked.sent = requests url (done url events) ∧
                  ∀ status body, network.Answers limitMs request status body ↔
                    network.Replies limitMs request status body) := by
  refine ⟨reported_iff, fun silent => (reached_silent silent).2, conclude_iff url, ?_⟩
  rintro before first report after rfl silent
  have latched : Latched url first report.json.print after _ _ := latched_reached silent after
  have asks : requests url _ = _ := requests_post latched.posted
  refine ⟨fun address web => ?_, fun fault none => ?_, fun result => ?_, fun id result other => ?_,
    latched.once, fun network limitMs => ?_⟩
  · simp [asks, Http.postJson, Http.prepare, web, Except.toOption, Report.json]
  · simp [asks, Http.postJson, Http.prepare, none, Except.toOption]
  · rw [latched.ends, latched.own]
    cases firstReply? first after <;> simp [eq_comm]
  · rw [latched.ends]
    obtain ⟨ended, made⟩ | ⟨new, unmade⟩ := latched.others id other
    · simp [ended, made, eq_comm]
    · simp [new, unmade]
  · intro request asked result
    have own : request = Http.postJson url report.json.print := by
      rw [← latched.address]
      rfl
    obtain ⟨well, failed⟩ := conclude_ask url report.json.print network limitMs
    rw [← own] at well failed asks
    refine ⟨network.sends_ask limitMs request, well, failed, fun direct => ⟨?_, ?_⟩⟩
    · exact (direct.sent_ask limitMs).1.trans asks.symm
    · exact fun status body => direct.answers_iff

/-- Of two calls the first one posts. -/
theorem latch_of_reporter_of_two_calls :
    let url := "http://relay/report"
    let report : Report := { message := "No session data available", source := "relay" }
    requests url (done url [.report 0 report, .report 1 report]) =
      [{ method := .post
         url := { scheme := "http", host := some "relay", path := "/report"
                  query := none, fragment := none }
         contentType := some "application/json", body := report.json.print }] := by
  intro url report
  obtain ⟨-, -, -, latch⟩ := latch_of_reporter url [.report 0 report, .report 1 report]
  have web : Http.webAddress "http://relay/report" = .ok
      { scheme := "http", host := some "relay", path := "/report"
        query := none, fragment := none } := by rfl
  exact (latch [] 0 report [.report 1 report] rfl (by simp [Made])).1 _ web

end DisclosureRelay.Reporter
