import DisclosureRelay.Proofs.Assertion.Answer
import DisclosureRelay.Proofs.Http.Answers

/-!
# What an answer comes to

`Fields.Verdict` lists what the fields of an answer come to: another status than 200 is refused,
fields without an address or without an assertion are named by what they lack, and all others make
the assertion. `verdict_of_answer` says so of an answer with any data, and `verdict_of_exchange` of
an exchange over any network, where it also says what is sent.
-/

namespace DisclosureRelay

namespace Assertion.Fields

/-- What an answer with a status and fields comes to. -/
inductive Verdict (fields : Fields) (status : Nat) (url : String) :
    Except Failure Assertion → Prop where
  | refused : status ≠ 200 → Verdict fields status url (.error (.refused url status))
  | unaddressed : status = 200 → ¬fields.Addressed →
    Verdict fields status url (.error (.invalidAssertion "missing serviceUrl"))
  | unasserted : status = 200 → fields.Addressed → (∀ assertion, ¬fields.Makes assertion) →
    Verdict fields status url (.error (.invalidAssertion "missing samlResponse"))
  | granted {assertion} : status = 200 → fields.Makes assertion →
    Verdict fields status url (.ok assertion)

variable {fields : Fields} {assertion other : Assertion} {status : Nat} {url : String}

lemma Makes.addressed (makes : fields.Makes assertion) : fields.Addressed :=
  ⟨assertion.serviceUrl, makes.serviceUrl⟩

/-- The state of an assertion is the one its fields have, unless that is empty. -/
lemma Makes.relayState (makes : fields.Makes assertion) :
    assertion.relayState = nonEmpty fields.relayState := by
  cases state : assertion.relayState with
  | none => exact (nonEmpty_eq_none.2 (makes.stateless.1 state)).symm
  | some text =>
    have given := makes.stateful text state
    refine (nonEmpty_eq_some.2 ⟨given, ?_⟩).symm
    rintro rfl
    simp [makes.stateless.2 (.inr given)] at state

lemma Makes.unique (makes : fields.Makes assertion) (makes' : fields.Makes other) :
    assertion = other := by
  cases assertion
  cases other
  congr
  · exact Option.some.inj (makes.serviceUrl.1.symm.trans makes'.serviceUrl.1)
  · exact Option.some.inj (makes.samlResponse.1.symm.trans makes'.samlResponse.1)
  · exact makes.relayState.trans makes'.relayState.symm

/-- The fields of an answer come to what its verdict is. -/
theorem verdict (fields : Fields) (status : Nat) (url : String) :
    fields.Verdict status url (fields.assertion status url) := by
  unfold assertion
  split
  · next other => exact .refused other
  · next ok =>
    have ok : status = 200 := by simpa using ok
    split
    · next missing =>
      refine .unaddressed ok ?_
      rintro ⟨serviceUrl, address⟩
      simp [nonEmpty_eq_some.2 address] at missing
    · next serviceUrl address =>
      have address := nonEmpty_eq_some.1 address
      split
      · next missing =>
        refine .unasserted ok ⟨serviceUrl, address⟩ fun assertion makes => ?_
        simp [nonEmpty_eq_some.2 makes.samlResponse] at missing
      · next samlResponse saml =>
        refine .granted ok ⟨address, nonEmpty_eq_some.1 saml, nonEmpty_eq_none, ?_⟩
        exact fun state given => (nonEmpty_eq_some.1 given).1

lemma assertion_eq_ok :
    fields.assertion status url = .ok assertion ↔ status = 200 ∧ fields.Makes assertion := by
  have verdict := fields.verdict status url
  generalize fields.assertion status url = result at verdict
  cases verdict with
  | refused other => simp [other]
  | unaddressed _ missing => simpa using fun _ makes => missing makes.addressed
  | unasserted _ _ missing => simpa using fun _ => missing assertion
  | granted ok makes =>
    simp only [Except.ok.injEq, ok, true_and]
    exact ⟨fun same => same ▸ makes, fun makes' => makes.unique makes'⟩

lemma assertion_eq_refused {address : String} {code : Nat} :
    fields.assertion status url = .error (.refused address code) ↔
      status ≠ 200 ∧ address = url ∧ code = status := by
  have verdict := fields.verdict status url
  generalize fields.assertion status url = result at verdict
  cases verdict with
  | refused other => simp [other, eq_comm]
  | unaddressed ok | unasserted ok | granted ok => simp [ok]

/-- The assertion is what an answer lacks that says where the user is to be returned to. -/
lemma assertion_eq_unasserted :
    fields.assertion status url = .error (.invalidAssertion "missing samlResponse") ↔
      status = 200 ∧ fields.Addressed ∧ ∀ assertion, ¬fields.Makes assertion := by
  have verdict := fields.verdict status url
  generalize fields.assertion status url = result at verdict
  cases verdict with
  | refused other => simp [other]
  | unaddressed _ missing => simp [missing]
  | unasserted ok address missing => simp [ok, address, missing]
  | granted _ makes => simpa using fun _ _ => ⟨_, makes⟩

/-- The address is what an answer lacks that does not say where the user is to be returned to. -/
lemma assertion_eq_unaddressed :
    fields.assertion status url = .error (.invalidAssertion "missing serviceUrl") ↔
      status = 200 ∧ ¬fields.Addressed := by
  have verdict := fields.verdict status url
  generalize fields.assertion status url = result at verdict
  cases verdict with
  | refused other => simp [other]
  | unaddressed ok missing => simp [ok, missing]
  | unasserted _ address => simp [address]
  | granted _ makes => simp [makes.addressed]

/-- Whatever else an answer with status 200 says, what it lacks is named. -/
lemma assertion_eq_invalid :
    (∃ reason, fields.assertion status url = .error (.invalidAssertion reason)) ↔
      status = 200 ∧ ∀ assertion, ¬fields.Makes assertion := by
  have verdict := fields.verdict status url
  generalize fields.assertion status url = result at verdict
  cases verdict with
  | refused other => simp [other]
  | unaddressed ok missing => simpa [ok] using fun _ makes => missing makes.addressed
  | unasserted ok _ missing => simpa [ok] using missing
  | granted _ makes => simpa using fun _ => ⟨_, makes⟩

/-- Fields are those of an answer, so that they never come to a failure of the transport. -/
lemma assertion_ne_transport (fields : Fields) (status : Nat) (url : String) (fault : Http.Fault) :
    fields.assertion status url ≠ .error (.transport fault) := by
  intro unanswered
  have verdict := fields.verdict status url
  rw [unanswered] at verdict
  cases verdict

end Assertion.Fields

namespace JsonAnswer

open Assertion (Fields)

variable {answer : JsonAnswer} {fields : Fields} {body : Option Http.Body}

lemma Carries.ofData (carries : answer.Carries fields) : Fields.ofData answer.data = fields := by
  obtain ⟨json, given, shaped⟩ := carries
  simp [Fields.ofData, given, Fields.ofJson?_eq_some.2 shaped]

/-- Fields about which something is to be said are carried by the data that they are taken from. -/
lemma ofData_iff {P : Fields → Prop} (nothing : ¬P {}) :
    P (Fields.ofData answer.data) ↔ ∃ fields, answer.Carries fields ∧ P fields := by
  constructor
  · intro holds
    cases read : answer.data.bind Fields.ofJson? with
    | none =>
      rw [Fields.ofData, read] at holds
      exact absurd holds nothing
    | some fields =>
      obtain ⟨json, given, shaped⟩ := Option.bind_eq_some_iff.1 read
      rw [Fields.ofData, read] at holds
      exact ⟨fields, ⟨json, given, Fields.ofJson?_eq_some.1 shaped⟩, holds⟩
  · rintro ⟨fields, carries, holds⟩
    exact carries.ofData ▸ holds

lemma makes_ofData_iff {assertion : Assertion} :
    (Fields.ofData answer.data).Makes assertion ↔
      ∃ fields, answer.Carries fields ∧ fields.Makes assertion :=
  ofData_iff (P := (·.Makes assertion)) fun makes => nomatch makes.serviceUrl.1

lemma addressed_ofData_iff :
    (Fields.ofData answer.data).Addressed ↔ ∃ fields, answer.Carries fields ∧ fields.Addressed :=
  ofData_iff (P := (·.Addressed)) fun ⟨_, given, _⟩ => nomatch given

/-- An answer is an assertion if its status is 200 and its data carries fields that make one.
Another status is refused with the address that was asked, and an answer that lacks something is
named by the first thing that it lacks. -/
theorem verdict_of_answer (answer : JsonAnswer) (url : String) :
    (∀ assertion, answer.assertion url = .ok assertion ↔
        answer.status = 200 ∧ ∃ fields, answer.Carries fields ∧ fields.Makes assertion) ∧
      (∀ address status, answer.assertion url = .error (.refused address status) ↔
        answer.status ≠ 200 ∧ address = url ∧ status = answer.status) ∧
      (answer.assertion url = .error (.invalidAssertion "missing samlResponse") ↔
        answer.status = 200 ∧ (∃ fields, answer.Carries fields ∧ fields.Addressed) ∧
          ¬∃ assertion fields, answer.Carries fields ∧ fields.Makes assertion) ∧
      (answer.assertion url = .error (.invalidAssertion "missing serviceUrl") ↔
        answer.status = 200 ∧ ¬∃ fields, answer.Carries fields ∧ fields.Addressed) := by
  unfold JsonAnswer.assertion
  refine ⟨fun assertion => ?_, fun address status => Fields.assertion_eq_refused, ?_, ?_⟩
  · rw [Fields.assertion_eq_ok, makes_ofData_iff]
  · rw [Fields.assertion_eq_unasserted, addressed_ofData_iff, not_exists]
    simp only [makes_ofData_iff]
  · rw [Fields.assertion_eq_unaddressed, addressed_ofData_iff]

lemma carries_ofParts :
    (ofParts 200 body).Carries fields ↔ ∃ whole, body = some whole ∧ Holds whole fields := by
  cases body with
  | none => simp [Carries, ofParts]
  | some whole =>
    simp only [Carries, ofParts, if_pos, Option.bind_some, Option.some.injEq, exists_eq_left']
    unfold dataOf Holds
    cases String.fromUTF8? whole.bytes with
    | none => simp
    | some raw => cases parsed : Json.ofText raw <;> simp [Except.toOption, parsed]

/-- An answer with status 200 makes the assertion that its body holds, if that came whole. -/
lemma makes_ofParts_iff {assertion : Assertion} :
    (Fields.ofData (ofParts 200 body).data).Makes assertion ↔
      ∃ whole fields, body = some whole ∧ Holds whole fields ∧ fields.Makes assertion := by
  simp only [makes_ofData_iff, carries_ofParts]
  constructor
  · rintro ⟨fields, ⟨whole, came, holds⟩, makes⟩
    exact ⟨whole, fields, came, holds, makes⟩
  · rintro ⟨whole, fields, came, holds, makes⟩
    exact ⟨fields, ⟨whole, came, holds⟩, makes⟩

/-- A request either got an answer or was never answered. -/
lemma received_cases (address : String) (reply : Http.Reply) :
    (∃ status body, Http.Arrived address reply status body ∧
        received address reply = .ok (ofParts status body)) ∨
      ∃ fault, (∀ status body, ¬Http.Arrived address reply status body) ∧
        received address reply = .error (.transport fault) := by
  unfold received Http.received Http.Arrived
  cases Http.webAddress address with
  | error fault => exact .inr ⟨fault, by simp, rfl⟩
  | ok url =>
    cases reply with
    | none => exact .inr ⟨.noAnswer url.print, by simp, rfl⟩
    | astray fault => exact .inr ⟨fault, by simp, rfl⟩
    | answer status body => exact .inl ⟨status, body, ⟨⟨url, rfl⟩, rfl⟩, rfl⟩

end JsonAnswer

namespace Exchange

open Http (Network)

variable {config : Session.Config} {exchange : Exchange} {reply : Http.Reply}
  {assertion : Assertion}

/-- An answer to an exchange is what it is judged by. -/
lemma conclude_of_arrived {status : Nat} {body : Option Http.Body}
    (arrived : Http.Arrived (exchange.endpoint config) reply status body) :
    exchange.conclude config reply =
      (JsonAnswer.ofParts status body).assertion (exchange.endpoint config) := by
  obtain ⟨⟨url, address⟩, rfl⟩ := arrived
  simp [conclude, JsonAnswer.received, Http.received, address]

/-- An exchange that is never answered comes to a failure of the transport. -/
lemma conclude_of_not_arrived
    (nothing : ∀ status body, ¬Http.Arrived (exchange.endpoint config) reply status body) :
    ∃ fault, exchange.conclude config reply = .error (.transport fault) := by
  obtain ⟨status, body, arrived, -⟩ | ⟨fault, -, received⟩ :=
    JsonAnswer.received_cases (exchange.endpoint config) reply
  · exact absurd arrived (nothing status body)
  · exact ⟨fault, by simp [conclude, received]⟩

lemma conclude_eq_transport :
    (∃ fault, exchange.conclude config reply = .error (.transport fault)) ↔
      ¬∃ status body, Http.Arrived (exchange.endpoint config) reply status body := by
  constructor
  · rintro ⟨fault, unanswered⟩ ⟨status, body, arrived⟩
    rw [conclude_of_arrived arrived] at unanswered
    exact Assertion.Fields.assertion_ne_transport _ _ _ _ unanswered
  · intro nothing
    exact conclude_of_not_arrived fun status body arrived => nothing ⟨status, body, arrived⟩

/-- Whatever else an exchange comes to, an answer to it comes to. -/
lemma conclude_eq (result : Except Failure Assertion)
    (answered : ∀ fault, result ≠ .error (.transport fault)) :
    exchange.conclude config reply = result ↔
      ∃ status body, Http.Arrived (exchange.endpoint config) reply status body ∧
        (JsonAnswer.ofParts status body).assertion (exchange.endpoint config) = result := by
  constructor
  · intro comes
    obtain ⟨status, body, arrived, -⟩ | ⟨_, nothing, -⟩ :=
      JsonAnswer.received_cases (exchange.endpoint config) reply
    · exact ⟨status, body, arrived, (conclude_of_arrived arrived).symm.trans comes⟩
    -- without an answer there is a failure of the transport, which the result is not
    · obtain ⟨fault, unanswered⟩ := conclude_of_not_arrived nothing
      exact absurd (comes.symm.trans unanswered) (answered fault)
  · rintro ⟨status, body, arrived, comes⟩
    exact (conclude_of_arrived arrived).trans comes

lemma conclude_eq_refused {address : String} {code : Nat} :
    exchange.conclude config reply = .error (.refused address code) ↔
      address = exchange.endpoint config ∧ code ≠ 200 ∧
        ∃ body, Http.Arrived (exchange.endpoint config) reply code body := by
  rw [conclude_eq (.error (.refused address code)) nofun]
  constructor
  · rintro ⟨status, body, arrived, refused⟩
    obtain ⟨other, rfl, rfl⟩ := Assertion.Fields.assertion_eq_refused.1 refused
    exact ⟨rfl, other, body, arrived⟩
  · rintro ⟨rfl, other, body, arrived⟩
    exact ⟨code, body, arrived, Assertion.Fields.assertion_eq_refused.2 ⟨other, rfl, rfl⟩⟩

lemma conclude_eq_ok :
    exchange.conclude config reply = .ok assertion ↔
      ∃ body fields, Http.Arrived (exchange.endpoint config) reply 200 (some body) ∧
        JsonAnswer.Holds body fields ∧ fields.Makes assertion := by
  rw [conclude_eq (.ok assertion) nofun]
  constructor
  · rintro ⟨status, body, arrived, granted⟩
    obtain ⟨ok, makes⟩ := Assertion.Fields.assertion_eq_ok.1 granted
    obtain rfl : status = 200 := ok
    obtain ⟨whole, fields, rfl, holds, makes⟩ := JsonAnswer.makes_ofParts_iff.1 makes
    exact ⟨whole, fields, arrived, holds, makes⟩
  · rintro ⟨whole, fields, arrived, holds, makes⟩
    have made := JsonAnswer.makes_ofParts_iff.2 ⟨whole, fields, rfl, holds, makes⟩
    exact ⟨200, some whole, arrived, Assertion.Fields.assertion_eq_ok.2 ⟨rfl, made⟩⟩

lemma conclude_eq_invalid :
    (∃ reason, exchange.conclude config reply = .error (.invalidAssertion reason)) ↔
      ∃ body, Http.Arrived (exchange.endpoint config) reply 200 body ∧
        ¬∃ assertion whole fields, body = some whole ∧ JsonAnswer.Holds whole fields ∧
          fields.Makes assertion := by
  constructor
  · rintro ⟨reason, invalid⟩
    obtain ⟨status, body, arrived, invalid⟩ :=
      (conclude_eq (.error (.invalidAssertion reason)) nofun).1 invalid
    obtain ⟨ok, unmade⟩ := Assertion.Fields.assertion_eq_invalid.1 ⟨reason, invalid⟩
    obtain rfl : status = 200 := ok
    refine ⟨body, arrived, ?_⟩
    rintro ⟨assertion, held⟩
    exact unmade assertion (JsonAnswer.makes_ofParts_iff.2 held)
  · rintro ⟨body, arrived, unheld⟩
    have unmade (assertion) : ¬(Assertion.Fields.ofData
        (JsonAnswer.ofParts 200 body).data).Makes assertion := fun makes =>
      unheld ⟨assertion, JsonAnswer.makes_ofParts_iff.1 makes⟩
    obtain ⟨reason, invalid⟩ := Assertion.Fields.assertion_eq_invalid.2 ⟨rfl, unmade⟩
    refine ⟨reason, (conclude_eq (.error (.invalidAssertion reason)) nofun).2 ?_⟩
    exact ⟨200, body, arrived, invalid⟩

lemma request_eq_ok {request : Http.Request} :
    exchange.request config = .ok request ↔
      ∃ url, Http.webAddress (exchange.endpoint config) = .ok url ∧
        request = { method := .post, url, contentType := some "application/json"
                    body := exchange.body config } :=
  Http.prepare_eq_ok

/-- An answer to an exchange arrives exactly if the client comes to one within the time limit. -/
lemma arrived_ask (config : Session.Config) (exchange : Exchange) (network : Network)
    (limitMs status : Nat) (body : Option Http.Body) :
    Http.Arrived (exchange.endpoint config)
        (network.ask limitMs (exchange.request config)).reply status body ↔
      network.Answers limitMs (exchange.request config) status body :=
  Network.arrived_ask network limitMs

/-- An exchange sends one request, a POST of what it says to its own endpoint, unless that cannot be
asked, and no other request unless a redirect sends the client on. It comes to a failure of the
transport exactly if the client comes to no answer in time, to a refusal exactly if it comes to one
with another status than 200, to the assertion exactly if the body of one with status 200 holds it,
and to an invalid assertion for every other answer with status 200. Where the endpoint does not
redirect, that one request is all that is sent, and its own answer is the one that counts. -/
theorem verdict_of_exchange (config : Session.Config) (exchange : Exchange) (network : Network)
    (limitMs : Nat) :
    let request := exchange.request config
    let result := (exchange.perform config network limitMs).1
    let asked := (exchange.perform config network limitMs).2
    (∀ token, exchange = .success token → exchange.endpoint config = config.assertUrl) ∧
      (exchange = .error → exchange.endpoint config = config.errorAssertUrl) ∧
      (exchange = .abort →
        exchange.endpoint config = Session.trimSlashes config.errorAssertUrl ++ "/abort") ∧
      (∀ sent, request = .ok sent ↔
        ∃ url, Http.webAddress (exchange.endpoint config) = .ok url ∧
          sent = { method := .post, url, contentType := some "application/json"
                   body := exchange.body config }) ∧
      network.Sends request asked.sent ∧
      (∀ decide before, network = .answering decide before →
        asked.network = .answering decide (before ++ asked.sent)) ∧
      ((∃ fault, result = .error (.transport fault)) ↔
        ¬∃ status body, network.Answers limitMs request status body) ∧
      (∀ address status, result = .error (.refused address status) ↔
        address = exchange.endpoint config ∧ status ≠ 200 ∧
          ∃ body, network.Answers limitMs request status body) ∧
      (∀ assertion, result = .ok assertion ↔
        ∃ body fields, network.Answers limitMs request 200 (some body) ∧
          JsonAnswer.Holds body fields ∧ fields.Makes assertion) ∧
      ((∃ reason, result = .error (.invalidAssertion reason)) ↔
        ∃ body, network.Answers limitMs request 200 body ∧
          ¬∃ assertion whole fields, body = some whole ∧ JsonAnswer.Holds whole fields ∧
            fields.Makes assertion) ∧
      (network.Direct request →
        asked.sent = request.toOption.toList ∧
          (asked.seen = request.toOption.toList.filter fun sent => (network.send sent).1.seen) ∧
          ∀ status body, network.Answers limitMs request status body ↔
            network.Replies limitMs request status body) := by
  intro request result asked
  have sends : network.Sends request asked.sent := network.sends_ask limitMs request
  refine ⟨?_, ?_, ?_, fun sent => request_eq_ok, sends, ?_, ?_, ?_, ?_, ?_, ?_⟩
  · rintro token rfl
    rfl
  · rintro rfl
    rfl
  · rintro rfl
    rfl
  · rintro decide before rfl
    exact Network.network_ask decide before limitMs request
  · simp only [request, ← arrived_ask]
    exact conclude_eq_transport
  · simp only [request, ← arrived_ask]
    exact fun address status => conclude_eq_refused
  · simp only [request, ← arrived_ask]
    exact fun assertion => conclude_eq_ok
  · simp only [request, ← arrived_ask]
    exact conclude_eq_invalid
  · intro direct
    obtain ⟨sent, seen⟩ := direct.sent_ask limitMs
    exact ⟨sent, seen, fun status body => direct.answers_iff⟩

/-- An endpoint that answers 503 is asked once, and the refusal names it. -/
theorem verdict_of_exchange_of_overload :
    let config : Session.Config :=
      { server := "http://irma", assertUrl := "http://bridge/assert"
        errorAssertUrl := "http://bridge/error", parameters := "p" }
    let overload : Http.Answer := { status := 503, body := none }
    let network : Network :=
      .answering (fun _ => { seen := true, delayMs := 20, answer := some overload }) []
    let (result, asked) := (Exchange.success "tok").perform config network 10000
    result = .error (.refused "http://bridge/assert" 503) ∧
      asked.sent =
        [{ method := .post
           url := { scheme := "http", host := some "bridge", path := "/assert"
                    query := none, fragment := none }
           contentType := some "application/json"
           body := (Exchange.success "tok").body config }] := by
  intro config overload network
  obtain ⟨-, -, -, requests, -, -, -, refused, -, -, direct⟩ :=
    verdict_of_exchange config (.success "tok") network 10000
  have web : Http.webAddress "http://bridge/assert" = .ok
      { scheme := "http", host := some "bridge", path := "/assert"
        query := none, fragment := none } := by rfl
  have request := (requests _).2 ⟨_, web, rfl⟩
  have direct := direct fun _ _ _ _ came redirects => by
    cases came
    cases redirects with
    | elsewhere status | again status => simp [overload] at status
  refine ⟨(refused _ _).2 ⟨rfl, by decide, none, ?_⟩, direct.1.trans ?_⟩
  · exact (direct.2.2 503 none).2 ⟨_, none, request, by decide, rfl⟩
  · rw [request]
    rfl

end Exchange

end DisclosureRelay
