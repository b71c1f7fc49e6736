import DisclosureRelay.Session.Data

/-!
# The configuration of a login

What one login needs to know: the server as the app sees it, the endpoints that give assertions,
the parameters that are passed on to them, the language and, unless the page was already marked as
failed, the session. `Config.fault?` checks it; the other functions derive the addresses and the
pointer that the login uses.
-/

namespace DisclosureRelay.Session

/-- The configuration of one login. -/
structure Config where
  server : String
  assertUrl : String
  errorAssertUrl : String
  parameters : String
  language : String := "en"
  session : Option Data := none

namespace Config

/-- What a configuration lacks. -/
inductive Fault where
  | noServer
  | noAssertUrl
  | noErrorAssertUrl
  deriving DecidableEq

/-- The wording of a fault. -/
def Fault.message : Fault → String
  | .noServer => "server origin is required"
  | .noAssertUrl => "assert url is required"
  | .noErrorAssertUrl => "error assert url is required"

/-- The first thing a configuration lacks, if any. -/
def fault? (config : Config) : Option Fault :=
  if config.server = "" then some .noServer
  else if config.assertUrl = "" then some .noAssertUrl
  else if config.errorAssertUrl = "" then some .noErrorAssertUrl
  else none

/-- Attaches the session data of a page. -/
def withSession (config : Config) (raw : String) : Except Failure Config :=
  match Data.parse raw with
  | .ok data => .ok { config with session := some data }
  | .error failure => .error failure

/-- The endpoint for a login that the user gave up. -/
def abortUrl (config : Config) : String :=
  trimSlashes config.errorAssertUrl ++ "/abort"

/-- The session data, or the failure of a page without any. -/
def sessionData (config : Config) : Except Failure Data :=
  match config.session with
  | some data => .ok data
  | none => .error (.configuration "No session data available")

/-- The session pointer, moved to the server of this login. -/
def pointer (config : Config) : Except Failure Pointer :=
  match config.sessionData with
  | .ok data => data.pointer.relocated config.server
  | .error failure => .error failure

/-- Where the signed result of the session is found. -/
def resultUrl (config : Config) : Except Failure String :=
  match config.sessionData with
  | .ok data =>
    .ok (trimSlashes config.server ++ "/session/" ++ data.token ++ "/result-jwt")
  | .error failure => .error failure

end Config

end DisclosureRelay.Session
