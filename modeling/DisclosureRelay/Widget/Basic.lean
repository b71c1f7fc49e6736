import DisclosureRelay.Session.Config

/-!
# Widgets

The widget shows the session to the user and ends with an `Outcome`. `Handover` is what it is given,
`Session.Config.handover` what a login gives it, and `Session.Config.Hands` says declaratively what
that is.
-/

namespace DisclosureRelay

namespace Widget

/-- How a run of a widget ends. -/
inductive Outcome where
  /-- The user disclosed; the token stands for the result. -/
  | completed (token : String)
  /-- The widget could not go on. -/
  | failed (reason : String)
  /-- The user gave up, or the run was stopped from outside. -/
  | aborted
  deriving DecidableEq

/-- What a widget is given: the pointer for the app, where the result will be found, and the
language. -/
structure Handover where
  pointer : Session.Pointer
  resultUrl : String
  language : String

/-- What a widget is given, as a JSON object. -/
def Handover.json (handover : Handover) : Json :=
  .object
    [("sessionPtr", handover.pointer.json), ("resultUrl", .text handover.resultUrl),
     ("language", .text handover.language)]

end Widget

/-- What a login gives its widget, if it has a session that can be moved to its server. -/
def Session.Config.handover (config : Session.Config) : Except Failure Widget.Handover :=
  match config.pointer with
  | .error failure => .error failure
  | .ok pointer =>
    match config.resultUrl with
    | .error failure => .error failure
    | .ok resultUrl => .ok { pointer, resultUrl, language := config.language }

/-- What a widget is to be given: there is session data, its pointer is moved to the server of the
login and otherwise left as it is, and the result is found at that server under the token. -/
structure Session.Config.Hands (config : Session.Config) (handover : Widget.Handover) : Prop where
  data : ∃ data, config.session = some data ∧
    Session.relocate data.pointer.address config.server = .ok handover.pointer.address ∧
    handover.pointer.metadata = data.pointer.metadata ∧
    handover.resultUrl =
      Session.trimSlashes config.server ++ "/session/" ++ data.token ++ "/result-jwt"
  language : handover.language = config.language

end DisclosureRelay
