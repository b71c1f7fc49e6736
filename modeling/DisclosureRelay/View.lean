import DisclosureRelay.Text.Quoted

/-!
# The login page

What the page shows. A login calls two hooks of it: one when the login failed, one when returning to
the service failed too. `View` remembers which were called, and `View.screen` is what is shown.
-/

namespace DisclosureRelay

/-- The messages of the error screen. -/
inductive MessageKey where
  | loginUnsuccessful
  | error
  | errorReturningFailed
  | errorPersists
  deriving DecidableEq

/-- The key under which the wording of a message is found. -/
def MessageKey.key : MessageKey → String
  | .loginUnsuccessful => "loginUnsuccessful"
  | .error => "error"
  | .errorReturningFailed => "errorReturningFailed"
  | .errorPersists => "errorPersists"

/-- The name of a message in logs. -/
def MessageKey.name : MessageKey → String
  | .loginUnsuccessful => "LoginUnsuccessful"
  | .error => "Error"
  | .errorReturningFailed => "ErrorReturningFailed"
  | .errorPersists => "ErrorPersists"

/-- What the page shows. -/
inductive Screen where
  /-- The widget is in control. -/
  | widget
  /-- The login was unsuccessful; the contact is only shown when returning failed. -/
  | error (header message : MessageKey) (support : Option (MessageKey × String))
  deriving DecidableEq

/-- The contact that a screen shows, if it shows one. -/
def Screen.contact? : Screen → Option String
  | .widget => none
  | .error _ _ support => support.map (·.2)

/-- What the page shows, as logs describe it. -/
def Screen.describe : Screen → String
  | .widget => "Widget"
  | .error header message support =>
    let shown := match support with
      | none => "None"
      | some (key, contact) => "Some((" ++ key.name ++ ", " ++ Text.quoted contact ++ "))"
    "Error \x7b header: " ++ header.name ++ ", message: " ++ message.name ++ ", support: " ++ shown
      ++ " \x7d"

/-- The hooks that a login calls. -/
inductive Hook where
  | onError
  | onReturningFailed
  deriving DecidableEq

/-- The state of the page. -/
structure View where
  hasError : Bool
  returningFailed : Bool
  supportContact : String
  deriving DecidableEq

namespace View

/-- The page at first; the server may have marked it as failed. -/
def initial (hasError : Bool) (supportContact : String) : View :=
  { hasError, returningFailed := false, supportContact }

/-- Calls a hook. -/
def call (view : View) : Hook → View
  | .onError => { view with hasError := true }
  | .onReturningFailed => { view with returningFailed := true }

/-- What is shown. -/
def screen (view : View) : Screen :=
  if view.returningFailed then
    .error .loginUnsuccessful .errorReturningFailed (some (.errorPersists, view.supportContact))
  else if view.hasError then .error .loginUnsuccessful .error none
  else .widget

end View

end DisclosureRelay
