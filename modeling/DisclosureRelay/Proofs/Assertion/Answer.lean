import DisclosureRelay.Assertion.Exchange
import DisclosureRelay.Return.Form
import Mathlib.Tactic.Lemma

/-!
# What an assertion comes from

The fields of a JSON value are those that `Shaped` says it carries, and an assertion is made of them
only if the address and the assertion itself are there and not empty. `carries_of_conclude` says of
an exchange as a whole that an assertion it brings stands in the body of an answer with status 200.
-/

namespace DisclosureRelay

namespace Assertion

variable {value : Option Json} {json : Json} {field : Option String} {fields : Fields}

/-- The text of a field is that of its shape. -/
theorem Fields.field?_eq_some : Fields.field? value = some field ↔ FieldShape value field := by
  constructor
  · intro read
    unfold Fields.field? at read
    split at read <;> cases read
    · exact .missing
    · exact .null
    · exact .text _
  · intro shape
    cases shape <;> rfl

/-- The fields of a JSON value are those that it carries. -/
theorem Fields.ofJson?_eq_some : Fields.ofJson? json = some fields ↔ Shaped json fields := by
  constructor
  · intro read
    cases json with
    | object members =>
      simp only [Fields.ofJson?, Option.bind_eq_bind, Option.bind_eq_some_iff, field?_eq_some] at read
      obtain ⟨serviceUrl, first, samlResponse, second, relayState, third, same⟩ := read
      cases same
      exact .object first second third
    | list items =>
      simp only [Fields.ofJson?] at read
      split at read
      · next short =>
        simp only [Option.bind_eq_bind, Option.bind_eq_some_iff, field?_eq_some] at read
        obtain ⟨serviceUrl, first, samlResponse, second, relayState, third, same⟩ := read
        cases same
        exact .list short first second third
      · cases read
    | _ => cases read
  · intro shaped
    cases shaped with
    | object first second third =>
      simp [Fields.ofJson?, field?_eq_some.2 first, field?_eq_some.2 second, field?_eq_some.2 third]
    | list short first second third =>
      simp [Fields.ofJson?, short, field?_eq_some.2 first, field?_eq_some.2 second,
        field?_eq_some.2 third]

/-- A field says something if it has a text that is not empty. -/
lemma Fields.nonEmpty_eq_some {text : String} :
    Fields.nonEmpty field = some text ↔ field = some text ∧ text ≠ "" := by
  simp [Fields.nonEmpty, Option.filter_eq_some_iff]

lemma Fields.nonEmpty_eq_none : Fields.nonEmpty field = none ↔ field = none ∨ field = some "" := by
  cases field <;> simp [Fields.nonEmpty, Option.filter_eq_none_iff]

/-- The form of an assertion carries the fields that the assertion was made of. -/
theorem carries_of_assertion {status : Nat} {url : String} {assertion : Assertion}
    (made : fields.assertion status url = .ok assertion) :
    status = 200 ∧ (Return.Form.ofAssertion assertion).Carries fields := by
  obtain ⟨serviceUrl, samlResponse, relayState⟩ := fields
  unfold Fields.assertion at made
  split at made
  · cases made
  · next ok =>
    refine ⟨by simpa using ok, ?_⟩
    split at made
    · cases made
    · next readUrl =>
      split at made <;> cases made
      next readSaml =>
        obtain ⟨rfl, address⟩ := Fields.nonEmpty_eq_some.1 readUrl
        obtain ⟨rfl, saml⟩ := Fields.nonEmpty_eq_some.1 readSaml
        cases readState : Fields.nonEmpty relayState with
        | some text =>
          obtain ⟨rfl, state⟩ := Fields.nonEmpty_eq_some.1 readState
          exact .withState address saml state
        | none => exact .withoutState address saml (Fields.nonEmpty_eq_none.1 readState)

/-- Fields that a form carries make an assertion, whose form it is. -/
theorem assertion_of_carries {form : Return.Form} (carries : form.Carries fields) (url : String) :
    ∃ assertion, fields.assertion 200 url = .ok assertion ∧
      Return.Form.ofAssertion assertion = form := by
  cases carries with
  | @withState serviceUrl samlResponse state address saml stateful =>
    refine ⟨⟨serviceUrl, samlResponse, some state⟩, ?_, rfl⟩
    simp [Fields.assertion, Fields.nonEmpty_eq_some.2 ⟨rfl, address⟩,
      Fields.nonEmpty_eq_some.2 ⟨rfl, saml⟩, Fields.nonEmpty_eq_some.2 ⟨rfl, stateful⟩]
  | @withoutState serviceUrl samlResponse relayState address saml stateless =>
    refine ⟨⟨serviceUrl, samlResponse, none⟩, ?_, rfl⟩
    simp [Fields.assertion, Fields.nonEmpty_eq_some.2 ⟨rfl, address⟩,
      Fields.nonEmpty_eq_some.2 ⟨rfl, saml⟩, Fields.nonEmpty_eq_none.2 stateless]

/-- A form that carries fields has an address, so that they are not those of a body that says
nothing. -/
lemma ne_empty_of_carries {form : Return.Form} (carries : form.Carries fields) : fields ≠ {} := by
  cases carries <;> simp

end Assertion

namespace JsonAnswer

variable {body : Http.Body} {fields : Assertion.Fields}

/-- A body that does not hold the fields that are taken from it says nothing. -/
lemma holds_of_ofData (something : Assertion.Fields.ofData (dataOf body) ≠ {}) :
    Holds body (Assertion.Fields.ofData (dataOf body)) := by
  unfold Assertion.Fields.ofData at something ⊢
  cases read : (dataOf body).bind Assertion.Fields.ofJson? with
  | none => simp [read] at something
  | some fields =>
    obtain ⟨json, data, shaped⟩ := Option.bind_eq_some_iff.1 read
    unfold dataOf at data
    split at data
    · cases data
    · next raw decoded =>
      refine ⟨raw, json, decoded, ?_, Assertion.Fields.ofJson?_eq_some.1 shaped⟩
      cases parsed : Json.ofText raw <;> simp_all [Except.toOption]

/-- The fields that a body holds are those that are taken from it. -/
lemma ofData_of_holds (holds : Holds body fields) :
    Assertion.Fields.ofData (dataOf body) = fields := by
  obtain ⟨raw, json, decoded, parsed, shaped⟩ := holds
  simp [Assertion.Fields.ofData, dataOf, decoded, parsed, Except.toOption,
    Assertion.Fields.ofJson?_eq_some.2 shaped]

end JsonAnswer

/-- An assertion that an exchange brings stands in the body of an answer with status 200. -/
theorem Exchange.carries_of_conclude {config : Session.Config} {exchange : Exchange}
    {reply : Http.Reply} {assertion : Assertion}
    (granted : exchange.conclude config reply = .ok assertion) :
    ∃ body fields, reply = .answer 200 (some body) ∧ JsonAnswer.Holds body fields ∧
      (Return.Form.ofAssertion assertion).Carries fields := by
  unfold conclude at granted
  split at granted
  · next answer received =>
    obtain ⟨ok, carries⟩ := Assertion.carries_of_assertion granted
    have something := Assertion.ne_empty_of_carries carries
    unfold JsonAnswer.received at received
    split at received <;> cases received
    next status body received =>
      obtain rfl : status = 200 := ok
      cases body with
      | none => exact absurd rfl something
      | some body =>
        refine ⟨body, _, ?_, JsonAnswer.holds_of_ofData something, carries⟩
        unfold Http.received at received
        split at received
        · cases received
        · split at received <;> cases received
          rfl
  · cases granted

/-- An answer with status 200 to an exchange that could be sent brings the assertion that its body
holds. -/
theorem Exchange.conclude_of_carries {config : Session.Config} {exchange : Exchange}
    {request : Http.Request} (sent : exchange.request config = .ok request) {body : Http.Body}
    {fields : Assertion.Fields} (holds : JsonAnswer.Holds body fields) {form : Return.Form}
    (carries : form.Carries fields) :
    ∃ assertion, exchange.conclude config (.answer 200 (some body)) = .ok assertion ∧
      Return.Form.ofAssertion assertion = form := by
  obtain ⟨assertion, made, same⟩ :=
    Assertion.assertion_of_carries carries (exchange.endpoint config)
  refine ⟨assertion, ?_, same⟩
  unfold Exchange.request Http.postJson Http.prepare at sent
  cases address : Http.webAddress (exchange.endpoint config) with
  | error fault => simp [address] at sent
  | ok url =>
    simp only [conclude, JsonAnswer.received, Http.received, address]
    rw [JsonAnswer.assertion, JsonAnswer.ofParts, if_pos rfl, Option.bind_some,
      JsonAnswer.ofData_of_holds holds, made]

end DisclosureRelay
