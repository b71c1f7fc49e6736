import DisclosureRelay.Failure
import DisclosureRelay.Json.Reader

/-!
# Assertions

An `Assertion` is what the relying service is handed. An endpoint's answer is first taken as
`Fields`, which may be missing, and only `Fields.assertion` turns these into an assertion.
`Shaped` says declaratively which JSON values carry which fields, and `Fields.Makes` which fields
make which assertion.
-/

namespace DisclosureRelay

/-- A checked assertion, ready to be relayed. -/
structure Assertion where
  serviceUrl : String
  samlResponse : String
  relayState : Option String
  deriving DecidableEq

namespace Assertion

/-- What an answer says, before any check. -/
structure Fields where
  serviceUrl : Option String := none
  samlResponse : Option String := none
  relayState : Option String := none
  deriving DecidableEq

namespace Fields

/-- The text of a field: a text, or nothing where there is `null` or no value at all. Any other
value is refused. -/
def field? : Option Json → Option (Option String)
  | none | some .null => some none
  | some (.text value) => some (some value)
  | some _ => none

/-- The fields of a JSON value: of an object by their names, of a list by their places. -/
def ofJson? : Json → Option Fields
  | .object members => do
    let serviceUrl ← field? (Members.get? members "serviceUrl")
    let samlResponse ← field? (Members.get? members "samlResponse")
    let relayState ← field? (Members.get? members "relayState")
    some { serviceUrl, samlResponse, relayState }
  | .list items =>
    if items.length ≤ 3 then do
      let serviceUrl ← field? items[0]?
      let samlResponse ← field? items[1]?
      let relayState ← field? items[2]?
      some { serviceUrl, samlResponse, relayState }
    else none
  | _ => none

/-- The fields of an answer: a body that is missing or has another shape carries none. -/
def ofData (data : Option Json) : Fields :=
  (data.bind ofJson?).getD {}

/-- A field that says something: an empty text says nothing. -/
def nonEmpty (value : Option String) : Option String :=
  value.filter (· ≠ "")

/-- The assertion that an answer with a status and fields carries. -/
def assertion (fields : Fields) (status : Nat) (url : String) : Except Failure Assertion :=
  if status ≠ 200 then .error (.refused url status)
  else
    match nonEmpty fields.serviceUrl with
    | none => .error (.invalidAssertion "missing serviceUrl")
    | some serviceUrl =>
      match nonEmpty fields.samlResponse with
      | none => .error (.invalidAssertion "missing samlResponse")
      | some samlResponse =>
        .ok { serviceUrl, samlResponse, relayState := nonEmpty fields.relayState }

end Fields

/-- A value that a field may have: a text, or one that stands for nothing. -/
inductive FieldShape : Option Json → Option String → Prop where
  | missing : FieldShape none none
  | null : FieldShape (some .null) none
  | text (value : String) : FieldShape (some (.text value)) (some value)

/-- A value that carries fields: an object whose three members have a field's shape, or a list of at
most three items that have. -/
inductive Shaped : Json → Fields → Prop where
  | object {members : Members} {fields : Fields} :
      FieldShape (members.get? "serviceUrl") fields.serviceUrl →
      FieldShape (members.get? "samlResponse") fields.samlResponse →
      FieldShape (members.get? "relayState") fields.relayState →
      Shaped (.object members) fields
  | list {items : List Json} {fields : Fields} :
      items.length ≤ 3 →
      FieldShape items[0]? fields.serviceUrl →
      FieldShape items[1]? fields.samlResponse →
      FieldShape items[2]? fields.relayState →
      Shaped (.list items) fields

/-- Fields that say where the user is to be returned to. -/
def Fields.Addressed (fields : Fields) : Prop :=
  ∃ serviceUrl, fields.serviceUrl = some serviceUrl ∧ serviceUrl ≠ ""

/-- The assertion that fields make: the address and the assertion itself are there and not empty,
and a state that is empty is none. -/
structure Fields.Makes (fields : Fields) (assertion : Assertion) : Prop where
  serviceUrl : fields.serviceUrl = some assertion.serviceUrl ∧ assertion.serviceUrl ≠ ""
  samlResponse : fields.samlResponse = some assertion.samlResponse ∧ assertion.samlResponse ≠ ""
  stateless : assertion.relayState = none ↔ fields.relayState = none ∨ fields.relayState = some ""
  stateful : ∀ state, assertion.relayState = some state → fields.relayState = some state

end Assertion

end DisclosureRelay
