import DisclosureRelay.Http.Message

/-!
# Failures of a login

A `Failure` is what can end a login attempt. `kind` is its short name for machines and `message`
its wording for people.
-/

namespace DisclosureRelay

/-- Why a login attempt could not go on. -/
inductive Failure where
  /-- The session data handed over by the page cannot be used. -/
  | configuration (reason : String)
  /-- An assertion endpoint answered with another status than 200. -/
  | refused (url : String) (status : Nat)
  /-- An answer with status 200 does not carry a usable assertion. -/
  | invalidAssertion (reason : String)
  /-- The form was submitted, but the user is still here. -/
  | returnTimeout
  /-- A request was never answered. -/
  | transport (fault : Http.Fault)
  /-- The widget failed. -/
  | widget (reason : String)
  deriving DecidableEq

namespace Failure

/-- The short name of a failure. -/
def kind : Failure → String
  | .configuration _ => "configuration"
  | .refused _ _ => "exchange_http"
  | .invalidAssertion _ => "invalid_assertion"
  | .returnTimeout => "return_timeout"
  | .transport _ => "transport"
  | .widget _ => "widget"

/-- The wording of a failure. -/
def message : Failure → String
  | .configuration reason => "Configuration error: " ++ reason
  | .refused url status =>
    "Assertion endpoint " ++ url ++ " answered with HTTP " ++ toString status
  | .invalidAssertion reason => "Invalid assertion: " ++ reason
  | .returnTimeout => "Returning to the service failed"
  | .transport fault => "Transport error: " ++ fault.message
  | .widget reason => "Widget error: " ++ reason

end Failure

end DisclosureRelay
