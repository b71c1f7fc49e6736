import DisclosureRelay.Http.Url
import DisclosureRelay.Text.ByteOrder

/-!
# Requests and what comes of them

A `Request` goes to an address of the web; `prepare` makes one unless the address is of another
kind. A `Reply` is what came of it in the end: nothing that could be read as an answer, a redirect
that led nowhere, or a status and a body, which may have broken off. `received` puts the two
together, with a `Fault` for a request that was never answered.

Of the headers of a request there is the type of its content; of those of an answer a `Body` keeps
the charset, since that decides what its text is, and the address of a redirect is looked at where
redirects are followed. No other header has a part in what a login does.
-/

namespace DisclosureRelay.Http

/-- The methods in use. -/
inductive Method where
  | get
  | post
  deriving DecidableEq

/-- The name of a method. -/
def Method.name : Method → String
  | .get => "GET"
  | .post => "POST"

/-- A request. -/
structure Request where
  method : Method
  url : Url
  contentType : Option String
  body : String
  deriving DecidableEq

/-- A whole body: its bytes, and how the charset that the answer names reads bytes, if it names one
that is known. -/
structure Body where
  bytes : ByteArray
  charset : Option (List UInt8 → List Char) := none

namespace Body

/-- The text of a body. A mark at its front decides how it is read, before the charset of the
answer; without either it is UTF-8. -/
def text (body : Body) : String :=
  Text.bodyText (body.charset.getD Text.Utf8.decode) body.bytes.data.toList

/-- No mark stands at the front of a body. -/
def Unmarked (body : Body) : Prop :=
  ∀ mark : Text.Mark, ¬mark.bytes <+: body.bytes.data.toList

/-- A body spells a text: behind a mark, as the charset of the answer has it, or in UTF-8. -/
inductive Spells (body : Body) (text : String) : Prop where
  | marked (mark : Text.Mark) :
    body.bytes.data.toList = mark.bytes ++ mark.encode text.toList → Spells body text
  | named {decode : List UInt8 → List Char} :
    body.Unmarked → body.charset = some decode → decode body.bytes.data.toList = text.toList →
    Spells body text
  | plain : body.Unmarked → body.charset = none → body.bytes = text.toUTF8 → Spells body text

end Body

/-- Why a request was never answered: an address is none that requests can go to, nothing came back,
or one redirect too many did. -/
inductive Fault where
  | address (url : Option String)
  | noAnswer (url : String)
  | redirects (url : String)
  deriving DecidableEq

/-- The wording of a fault. -/
def Fault.message : Fault → String
  | .address .none => "builder error"
  | .address (some url) => "builder error for url (" ++ url ++ ")"
  | .noAnswer url => "error sending request for url (" ++ url ++ ")"
  | .redirects url => "error following redirect for url (" ++ url ++ ")"

/-- What came back: nothing in time, a redirect that led nowhere, or an answer with its status and,
unless it broke off, the whole body. -/
inductive Reply where
  | none
  | astray (fault : Fault)
  | answer (status : Nat) (body : Option Body)

/-- The address a text names, if requests can go there. -/
def webAddress (text : String) : Except Fault Url :=
  match Url.parse? text with
  | some url => if url.takesRequests then .ok url else .error (.address (some url.print))
  | none => .error (.address none)

/-- A request to the address a text names. -/
def prepare (method : Method) (address : String) (contentType : Option String) (body : String) :
    Except Fault Request :=
  match webAddress address with
  | .ok url => .ok { method, url, contentType, body }
  | .error fault => .error fault

/-- The status and the body that a request to an address brought back. -/
def received (address : String) (reply : Reply) : Except Fault (Nat × Option Body) :=
  match webAddress address with
  | .error fault => .error fault
  | .ok url =>
    match reply with
    | .none => .error (.noAnswer url.print)
    | .astray fault => .error fault
    | .answer status body => .ok (status, body)

/-- An answer to a request to an address arrived: requests can go there, and a status came back. -/
def Arrived (address : String) (reply : Reply) (status : Nat) (body : Option Body) : Prop :=
  (∃ url, webAddress address = .ok url) ∧ reply = .answer status body

/-- The phrase of a status. -/
def reasonPhrase? : Nat → Option String
  | 100 => "Continue"
  | 101 => "Switching Protocols"
  | 102 => "Processing"
  | 103 => "Early Hints"
  | 200 => "OK"
  | 201 => "Created"
  | 202 => "Accepted"
  | 203 => "Non Authoritative Information"
  | 204 => "No Content"
  | 205 => "Reset Content"
  | 206 => "Partial Content"
  | 207 => "Multi-Status"
  | 208 => "Already Reported"
  | 226 => "IM Used"
  | 300 => "Multiple Choices"
  | 301 => "Moved Permanently"
  | 302 => "Found"
  | 303 => "See Other"
  | 304 => "Not Modified"
  | 305 => "Use Proxy"
  | 307 => "Temporary Redirect"
  | 308 => "Permanent Redirect"
  | 400 => "Bad Request"
  | 401 => "Unauthorized"
  | 402 => "Payment Required"
  | 403 => "Forbidden"
  | 404 => "Not Found"
  | 405 => "Method Not Allowed"
  | 406 => "Not Acceptable"
  | 407 => "Proxy Authentication Required"
  | 408 => "Request Timeout"
  | 409 => "Conflict"
  | 410 => "Gone"
  | 411 => "Length Required"
  | 412 => "Precondition Failed"
  | 413 => "Payload Too Large"
  | 414 => "URI Too Long"
  | 415 => "Unsupported Media Type"
  | 416 => "Range Not Satisfiable"
  | 417 => "Expectation Failed"
  | 418 => "I'm a teapot"
  | 421 => "Misdirected Request"
  | 422 => "Unprocessable Entity"
  | 423 => "Locked"
  | 424 => "Failed Dependency"
  | 425 => "Too Early"
  | 426 => "Upgrade Required"
  | 428 => "Precondition Required"
  | 429 => "Too Many Requests"
  | 431 => "Request Header Fields Too Large"
  | 451 => "Unavailable For Legal Reasons"
  | 500 => "Internal Server Error"
  | 501 => "Not Implemented"
  | 502 => "Bad Gateway"
  | 503 => "Service Unavailable"
  | 504 => "Gateway Timeout"
  | 505 => "HTTP Version Not Supported"
  | 506 => "Variant Also Negotiates"
  | 507 => "Insufficient Storage"
  | 508 => "Loop Detected"
  | 510 => "Not Extended"
  | 511 => "Network Authentication Required"
  | _ => none

/-- A status with its phrase. -/
def statusText (status : Nat) : String :=
  toString status ++ " " ++ (reasonPhrase? status).getD "<unknown status code>"

/-- Whether a status tells of success. -/
def isSuccess (status : Nat) : Bool :=
  200 ≤ status && status < 300

end DisclosureRelay.Http
