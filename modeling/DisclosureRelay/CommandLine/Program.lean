import DisclosureRelay.CommandLine.Arguments
import DisclosureRelay.Http.Network
import DisclosureRelay.Login.Basic
import DisclosureRelay.Widget.Result

/-!
# The program

One run of the program, up to the moment at which a return is scheduled. `prepare` loads the
settings, checks the configuration, reports session data that cannot be used and makes the one call
of the login. `Prepared.conclude` goes on from there: the user acts once if a widget waits, and the
peer is asked as often as the login asks. A `Run` is what came of it all.
-/

namespace DisclosureRelay.CommandLine

/-- What the user does while the widget waits. -/
inductive User where
  | interrupt
  | confirm
  | close
  deriving DecidableEq

/-- What the program notes once it knows its configuration. -/
structure Loaded where
  server : String
  language : String
  hasError : Bool
  submitDelayMs : Nat
  fallbackTimeoutMs : Nat
  deriving DecidableEq

/-- How a run ends. -/
inductive Ending where
  /-- The arguments are not usable. -/
  | stopped (stop : Stop)
  /-- The settings or the configuration are not usable. -/
  | refused (message : String)
  /-- A return is scheduled. -/
  | returning (assertion : Assertion)
  /-- The login is over without a return. The state is that before the last report. -/
  | finished (screen : Screen) (phase : Lifecycle.Phase) (reported : Bool) (failure : Option Failure)
  deriving DecidableEq

/-- What came of a run: what the login did, the requests that a peer saw, what was noted, and the
end. -/
structure Run where
  effects : List Login.Effect
  requests : List Http.Request
  loaded : Option Loaded
  ending : Ending

/-- The exit code; a run with a scheduled return has none yet. -/
def Ending.exitCode : Ending → Option Nat
  | .stopped .help => some 0
  | .stopped _ => some 2
  | .refused _ => some 1
  | .returning _ => none
  | .finished _ _ _ (some _) => some 1
  | .finished _ _ _ none => some 0

/-- What the run complains about. -/
def Ending.complaint : Ending → Option String
  | .stopped .help => none
  | .stopped stop => some ("error: " ++ stop.message)
  | .refused message => some ("Error: " ++ message)
  | .returning _ => none
  | .finished _ _ _ (some failure) => some ("Error: " ++ failure.message)
  | .finished _ _ _ none => none

/-- A line without the carriage return at its end, if there is one. -/
def withoutReturn (line : List Char) : List Char :=
  if line.getLast? = some '\r' then line.dropLast else line

/-- The lines of a complaint up to the first empty one. -/
def Ending.complaintLines (ending : Ending) : List String :=
  match ending.complaint with
  | none => []
  | some text =>
    (((text.toList.splitOn '\n').map withoutReturn).takeWhile (· ≠ [])).map String.ofList

/-- A login and the network it runs in, with what it did and the requests that a peer saw. -/
structure Prepared where
  login : Login
  network : Http.Network
  effects : List Login.Effect
  requests : List Http.Request
  loaded : Loaded

namespace Prepared

/-- The number of the only call. -/
def theCall : Lifecycle.CallId := 0

/-- Sends a request, if there is one, and waits for the reply to it. -/
def ask (p : Prepared) (request : Except Http.Fault Http.Request) : Http.Reply × Prepared :=
  let asked := p.network.ask p.login.limitMs request
  (asked.reply, { p with network := asked.network, requests := p.requests ++ asked.seen })

/-- Something happens to the login. -/
def apply (p : Prepared) (event : Login.Event) : Prepared :=
  let (login, effects) := p.login.step event
  { p with login, effects := p.effects ++ effects }

/-- Reports a failure; a call of the reporter has a number of its own, and posts only if it is the
first. -/
def report (p : Prepared) (id : ReportId) (failure : Failure) (source : String) : Prepared :=
  let report := Report.ofFailure failure source
  let p := p.apply (.report (.report id report))
  match p.login.reporter.calls id with
  | some .posting =>
    let (reply, p) := p.ask (p.login.reporter.request report.json.print)
    p.apply (.report (.replied id reply))
  | _ => p

/-- Makes the only call of the login: for a page that was marked as failed the error, and otherwise
a run with the widget that fetches the result. -/
def begin (p : Prepared) : Prepared :=
  p.apply (.lifecycle (.call theCall (if p.loaded.hasError then .handleError else .run 0)))

/-- Whether the widget waits for the user. -/
def waits (p : Prepared) : Bool :=
  match p.login.lifecycle.stage? theCall with
  | some (.atWidget _) => true
  | _ => false

/-- What the user does to the widget. -/
def userEvent : User → Widget.ResultEvent
  | .confirm => .confirm
  | _ => .close

/-- The widget of the call ends, if its run did. -/
def takeOutcome (p : Prepared) (widget : Widget.ResultWidget) : Prepared :=
  match widget.stage with
  | .ended outcome => p.apply (.lifecycle (.widgetEnded theCall outcome))
  | _ => p

/-- The widget goes on after the user acted, and fetches the result if that was confirmed. -/
def endWidget (p : Prepared) (user : User) : Prepared :=
  match p.login.lifecycle.config.resultUrl with
  | .error _ => p
  | .ok url =>
    let widget := (Widget.ResultWidget.run {} [.start url, userEvent user, .look]).1
    match widget.stage with
    | .fetching url =>
      let request := Widget.ResultWidget.request url
      let (reply, p) := (p.apply (.asks theCall request)).ask request
      p.takeOutcome (widget.step (.fetched reply)).1
    | _ => p.takeOutcome widget

/-- Goes on with an exchange. -/
def finishExchange (p : Prepared) (exchange : Exchange) : Prepared :=
  let (reply, p) := p.ask (exchange.request p.login.lifecycle.config)
  p.apply (.lifecycle (.replied theCall reply))

/-- Goes on with what the call waits for. -/
def advance (p : Prepared) (user : User) : Prepared :=
  match p.login.lifecycle.stage? theCall with
  | some (.atWidget _) =>
    match user with
    | .interrupt => p.apply (.lifecycle (.interrupt theCall))
    | user => p.endWidget user
  | some (.atExchange exchange) => p.finishExchange exchange
  | some .interrupted => p.finishExchange .abort
  | _ => p

/-- The run with an end. -/
def run (p : Prepared) (ending : Ending) : Run :=
  { effects := p.effects, requests := p.requests, loaded := some p.loaded, ending }

/-- The run after the login is over. -/
def wrapUp (p : Prepared) (failure : Option Failure) : Run :=
  let ending : Ending :=
    .finished p.login.view.screen p.login.lifecycle.phase p.login.reporter.reported failure
  match failure with
  | some failure => (p.report 1 failure "relay").run ending
  | none => p.run ending

/-- Lets the login come to its end. The call waits three times at most: for the widget, the success
and the error. -/
def conclude (p : Prepared) (user : User) : Run :=
  let p := ((p.advance user).advance user).advance user
  match p.login.lifecycle.stage? theCall with
  | some (.ended (.returning assertion)) =>
    p.run (.returning assertion)
  | some (.ended (.failed failure)) => p.wrapUp (some failure)
  | _ => p.wrapUp none

end Prepared

/-- Whether the server marked the page as failed. -/
def Arguments.hasError (arguments : Arguments) : Bool :=
  arguments.error.any fun text => !text.isEmpty

/-- The configuration without a session. -/
def Arguments.baseConfig (arguments : Arguments) : Session.Config :=
  { server := arguments.server
    assertUrl := arguments.assertUrl
    errorAssertUrl := arguments.errorAssertUrl
    parameters := arguments.assertParameters
    language := arguments.language }

/-- The configuration with the session, which is left alone on a page that was marked as failed, and
the failure of session data that cannot be used. -/
def Arguments.sessionConfig (arguments : Arguments) : Session.Config × Option Failure :=
  let base := arguments.baseConfig
  match arguments.sessionData with
  | none => (base, none)
  | some raw =>
    if arguments.hasError then (base, none)
    else
      match base.withSession raw with
      | .ok config => (config, none)
      | .error failure => (base, some failure)

/-- The settings: of a file if one is named, of which `file` is what reading it gave, and otherwise
the standard ones. -/
def Arguments.settings (arguments : Arguments) (file : Settings.FileRead) :
    Except String Settings :=
  match arguments.config with
  | none => .ok {}
  | some path => (Settings.load file).mapError (·.message path)

/-- A run with unusable arguments. -/
def Run.stopped (stop : Stop) : Run :=
  { effects := [], requests := [], loaded := none, ending := .stopped stop }

/-- A run that ends before any request. -/
def Run.refused (message : String) : Run :=
  { effects := [], requests := [], loaded := none, ending := .refused message }

/-- The login of arguments that were checked, after session data that cannot be used was reported,
and with the call made. -/
def Arguments.login (arguments : Arguments) (settings : Settings) (network : Http.Network) :
    Prepared :=
  let (config, failure) := arguments.sessionConfig
  let p : Prepared :=
    { login := .initial config settings arguments.errorUrl arguments.hasError
      network
      effects := []
      requests := []
      loaded :=
        { server := config.server
          language := config.language
          hasError := arguments.hasError
          submitDelayMs := settings.submitDelayMs
          fallbackTimeoutMs := settings.fallbackTimeoutMs } }
  match failure with
  | some failure => (p.report 0 failure "session").begin
  | none => p.begin

/-- Loads the settings, checks the configuration and makes the call of the login. -/
def prepare (arguments : Arguments) (file : Settings.FileRead) (network : Http.Network) :
    Except Run Prepared :=
  match arguments.settings file with
  | .error message => .error (.refused message)
  | .ok settings =>
    match arguments.baseConfig.fault? with
    | some fault => .error (.refused fault.message)
    | none => .ok (arguments.login settings network)

/-- A whole run with usable arguments. -/
def run (arguments : Arguments) (file : Settings.FileRead) (network : Http.Network) (user : User) :
    Run :=
  match prepare arguments file network with
  | .error run => run
  | .ok p => p.conclude user

/-- A whole run from the command line and the environment; `contents` is what reading a file
gives. -/
def runWith (arguments : List String) (environment : String → Option String)
    (contents : String → Settings.FileRead) (network : Http.Network) (user : User) : Run :=
  match Arguments.parse arguments environment with
  | .error stop => .stopped stop
  | .ok parsed => run parsed (contents (parsed.config.getD "")) network user

end DisclosureRelay.CommandLine
