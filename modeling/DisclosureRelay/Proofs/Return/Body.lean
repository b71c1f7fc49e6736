import DisclosureRelay.Proofs.Text.FormUrlencoded
import DisclosureRelay.Return.Form

/-!
# What a service reads from a posted form

The body of a form is read back as the fields of the form, and the body of an assertion's form as
what the assertion carries.
-/

namespace DisclosureRelay.Return

open Text (FormUrlencoded.decode FormUrlencoded.decode_encode FormUrlencoded.mem_encodeChars)

/-- The fields of an assertion's form: its state is the second one if it carries one. -/
lemma fields_ofAssertion (assertion : Assertion) :
    (Form.ofAssertion assertion).fields =
      ("SAMLResponse", assertion.samlResponse) ::
        assertion.relayState.toList.map (("RelayState", ·)) := by
  unfold Form.ofAssertion
  cases assertion.relayState <;> rfl

/-- Every form has a body. It is made of ASCII letters, digits and eight marks, and the fields are
read back from it in their order. Thus a service reads the assertion as it was issued, and a state
exactly if the assertion carries one. -/
theorem body_of_form :
    (∀ form : Form,
      (∀ c ∈ form.body.toList, c.isAlphanum = true ∨ c ∈ "*-._+%&=".toList) ∧
        FormUrlencoded.decode form.body = form.fields) ∧
      ∀ assertion : Assertion,
        let read := FormUrlencoded.decode (Form.ofAssertion assertion).body
        read = ("SAMLResponse", assertion.samlResponse) ::
            assertion.relayState.toList.map (("RelayState", ·)) ∧
          read.lookup "SAMLResponse" = some assertion.samlResponse ∧
          read.lookup "RelayState" = assertion.relayState := by
  have read (form : Form) : FormUrlencoded.decode form.body = form.fields :=
    FormUrlencoded.decode_encode form.fields
  refine ⟨fun form => ⟨fun c mem => ?_, read form⟩, fun assertion => ?_⟩
  · rw [Form.body, Text.FormUrlencoded.encode, String.toList_ofList] at mem
    rw [String.toList_ofList]
    exact FormUrlencoded.mem_encodeChars mem
  · simp only [read, fields_ofAssertion]
    cases assertion.relayState <;> simp [List.lookup_cons]

end DisclosureRelay.Return
