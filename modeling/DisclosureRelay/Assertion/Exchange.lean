import DisclosureRelay.Assertion.Basic
import DisclosureRelay.Http.Network
import DisclosureRelay.Session.Config

/-!
# Exchanges

An exchange trades the outcome of a session for an assertion: a success with the token it brought,
an error, or an abort. `Exchange.request` is what is sent and where, `Exchange.conclude` what the reply
to it means, and `Exchange.perform` both together over a network. An exchange is never repeated; only
a redirect makes the client send more than that one request.
-/

namespace DisclosureRelay

/-- What is asked for at an assertion endpoint. -/
inductive Exchange where
  | success (token : String)
  | error
  | abort
  deriving DecidableEq

namespace Exchange

/-- The name of an exchange. -/
def label : Exchange → String
  | .success _ => "success"
  | .error => "error"
  | .abort => "abort"

/-- The endpoint of an exchange. -/
def endpoint (config : Session.Config) : Exchange → String
  | .success _ => config.assertUrl
  | .error => config.errorAssertUrl
  | .abort => config.abortUrl

/-- What an exchange says: the parameters, and before them the token of a success. -/
def content (parameters : String) : Exchange → Json
  | .success token => .object [("token", .text token), ("parameters", .text parameters)]
  | .error | .abort => .object [("parameters", .text parameters)]

/-- The text that an exchange posts. -/
def body (config : Session.Config) (exchange : Exchange) : String :=
  (exchange.content config.parameters).print

end Exchange

/-- The request that posts a JSON text to an address, if the address can be asked at all. -/
def Http.postJson (address body : String) : Except Http.Fault Http.Request :=
  Http.prepare .post address (some "application/json") body

/-- The answer to a JSON request: the status, and the data of a body that was read. -/
structure JsonAnswer where
  status : Nat
  data : Option Json

namespace JsonAnswer

/-- The data of a body, if it is JSON. That is always read as UTF-8, whatever charset is named. -/
def dataOf (body : Http.Body) : Option Json :=
  match String.fromUTF8? body.bytes with
  | none => none
  | some raw => (Json.ofText raw).toOption

/-- The answer with a status and a body. Only at status 200 the body is looked at; one that broke
off or is not JSON counts as none. -/
def ofParts (status : Nat) (body : Option Http.Body) : JsonAnswer :=
  { status, data := if status = 200 then body.bind dataOf else none }

/-- A body is the JSON text of a value that carries these fields. -/
def Holds (body : Http.Body) (fields : Assertion.Fields) : Prop :=
  ∃ raw json, String.fromUTF8? body.bytes = some raw ∧ Json.ofText raw = .ok json ∧
    Assertion.Shaped json fields

/-- The data of an answer carries these fields. -/
def Carries (answer : JsonAnswer) (fields : Assertion.Fields) : Prop :=
  ∃ json, answer.data = some json ∧ Assertion.Shaped json fields

/-- The answer to a request that was sent to an address. -/
def received (address : String) (reply : Http.Reply) : Except Failure JsonAnswer :=
  match Http.received address reply with
  | .ok (status, body) => .ok (ofParts status body)
  | .error fault => .error (.transport fault)

/-- Posts a JSON text to an address. -/
def post (network : Http.Network) (limitMs : Nat) (address body : String) :
    Except Failure JsonAnswer × Http.Network.Asked :=
  let asked := network.ask limitMs (Http.postJson address body)
  (received address asked.reply, asked)

/-- The assertion that the answer of an endpoint carries. -/
def assertion (answer : JsonAnswer) (url : String) : Except Failure Assertion :=
  (Assertion.Fields.ofData answer.data).assertion answer.status url

end JsonAnswer

namespace Exchange

/-- The request of an exchange, if its endpoint can be asked at all. -/
def request (config : Session.Config) (exchange : Exchange) : Except Http.Fault Http.Request :=
  Http.postJson (exchange.endpoint config) (exchange.body config)

/-- What the reply to an exchange means. -/
def conclude (config : Session.Config) (exchange : Exchange) (reply : Http.Reply) :
    Except Failure Assertion :=
  match JsonAnswer.received (exchange.endpoint config) reply with
  | .ok answer => answer.assertion (exchange.endpoint config)
  | .error failure => .error failure

/-- Makes an exchange over a network. -/
def perform (config : Session.Config) (exchange : Exchange) (network : Http.Network)
    (limitMs : Nat) : Except Failure Assertion × Http.Network.Asked :=
  let asked := network.ask limitMs (exchange.request config)
  (exchange.conclude config asked.reply, asked)

end Exchange

end DisclosureRelay
