import DisclosureRelay.Assertion.Basic
import DisclosureRelay.Text.FormUrlencoded

/-!
# Return forms

The form that takes the user back to the relying service: it is posted to the service with the
assertion in hidden fields. `Form.ofAssertion` builds it, `Form.Carries` says declaratively which
fields of an answer it comes from, `Form.field?` looks a field up and `Form.body` is what a browser
would post.
-/

namespace DisclosureRelay.Return

/-- A form to be posted: where to, and its hidden fields in order. -/
structure Form where
  action : String
  fields : List (String × String)
  deriving DecidableEq

namespace Form

/-- The name of the field with the assertion itself. -/
def samlResponseField : String := "SAMLResponse"

/-- The name of the field with the state of the relying service. -/
def relayStateField : String := "RelayState"

/-- The form of an assertion; it has a state only if the assertion carries one. -/
def ofAssertion (assertion : Assertion) : Form :=
  { action := assertion.serviceUrl
    fields := (samlResponseField, assertion.samlResponse) ::
      match assertion.relayState with
      | some state => [(relayStateField, state)]
      | none => [] }

/-- A form that says what an answer says, and nothing else: the state only if it is there and not
empty. -/
inductive Carries : Form → Assertion.Fields → Prop where
  | withState {serviceUrl samlResponse state : String} :
    serviceUrl ≠ "" → samlResponse ≠ "" → state ≠ "" →
    Carries ⟨serviceUrl, [("SAMLResponse", samlResponse), ("RelayState", state)]⟩
      ⟨some serviceUrl, some samlResponse, some state⟩
  | withoutState {serviceUrl samlResponse : String} {relayState : Option String} :
    serviceUrl ≠ "" → samlResponse ≠ "" → relayState = none ∨ relayState = some "" →
    Carries ⟨serviceUrl, [("SAMLResponse", samlResponse)]⟩
      ⟨some serviceUrl, some samlResponse, relayState⟩

/-- The value of the first field of a name. -/
def field? (form : Form) (name : String) : Option String :=
  (form.fields.find? (·.1 = name)).map (·.2)

/-- The body that posts the fields. -/
def body (form : Form) : String :=
  Text.FormUrlencoded.encode form.fields

end Form

end DisclosureRelay.Return
