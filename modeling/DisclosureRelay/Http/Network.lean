import DisclosureRelay.Http.Message

/-!
# Networks

What stands behind the requests of a login: nothing at all, or a peer that decides what becomes of a
request by all that it was sent so far. `Network.send` delivers one request.

`Network.ask` is what the client makes of it. It follows redirects, ten of them at most and all
within one time limit: an answer may name another address for what was asked (`Answer.next?`), and
then the client asks there, either the same again or, where the status says so, by a GET without a
body. So a single question may be many requests, which an `Asked` lists as its `Hop`s.

`Answer.Redirects` says declaratively where an answer sends the client, `Network.Sends` what is sent
in all, and `Network.Answers` which answer the client comes to in the end. `Network.Replies` is the
answer that the request itself gets, and `Network.Direct` says that this one redirects nothing, so
that it is the one the client comes to.
-/

namespace DisclosureRelay.Http

/-- An answer of a peer: its status, its body unless that broke off or was too late, and the address
that it names as the place of what was asked for, if it names one. -/
structure Answer where
  status : Nat
  body : Option Body
  location : Option Url := none

namespace Answer

/-- The request that an answer sends the client on to, if it does. Depending on the status it is the
same at another address, or a GET; an address that no request can name is as good as none. -/
def next? (answer : Answer) (request : Request) : Option Request :=
  match answer.location.filter Url.isNamable with
  | none => none
  | some url =>
    if answer.status ∈ [301, 302, 303] then
      some { method := .get, url, contentType := none, body := "" }
    else if answer.status ∈ [307, 308] then some { request with url }
    else none

/-- An answer sends the client on from one request to the next. -/
inductive Redirects (answer : Answer) (request : Request) : Request → Prop where
  /-- What was asked for is to be had elsewhere. -/
  | elsewhere {url : Url} :
    answer.status ∈ [301, 302, 303] → answer.location = some url → url.isNamable = true →
    Redirects answer request { method := .get, url, contentType := none, body := "" }
  /-- The request is to be made elsewhere. -/
  | again {url : Url} :
    answer.status ∈ [307, 308] → answer.location = some url → url.isNamable = true →
    Redirects answer request { request with url }

end Answer

/-- What becomes of a request: whether the peer saw it, and what comes back after which time. -/
structure Delivery where
  seen : Bool
  delayMs : Nat
  answer : Option Answer

/-- The answer of a delivery, if it comes before a time limit. -/
def Delivery.within (delivery : Delivery) (limitMs : Nat) : Option Answer :=
  if limitMs ≤ delivery.delayMs then none else delivery.answer

/-- A network: no peer can be reached, or one that decides what becomes of a request by all that it
was sent so far. -/
inductive Network where
  | unreachable
  | answering (decide : List Request → Delivery) (sent : List Request)

/-- One of the requests that a question became: when it was sent, and whether a peer saw it. -/
structure Hop where
  time : Nat
  request : Request
  seen : Bool

/-- A hop that is a while later. -/
def Hop.later (hop : Hop) (delayMs : Nat) : Hop :=
  { hop with time := delayMs + hop.time }

namespace Network

/-- Delivers a request. -/
def send (network : Network) (request : Request) : Delivery × Network :=
  match network with
  | .unreachable => ({ seen := false, delayMs := 0, answer := none }, network)
  | .answering decide sent =>
    let sent := sent ++ [request]
    (decide sent, .answering decide sent)

/-- A request as the first hop of a question. -/
def hop (network : Network) (request : Request) : Hop :=
  { time := 0, request, seen := (network.send request).1.seen }

/-- What asking a network brought: the reply, the time it took and the requests that were sent, with
the network as it is afterwards. -/
structure Asked where
  reply : Reply
  delayMs : Nat
  hops : List Hop
  network : Network

namespace Asked

/-- The requests that were sent. -/
def sent (asked : Asked) : List Request :=
  asked.hops.map (·.request)

/-- The requests that a peer saw. -/
def seen (asked : Asked) : List Request :=
  (asked.hops.filter (·.seen)).map (·.request)

/-- Asking went on after a request that took a while. -/
def behind (asked : Asked) (hop : Hop) (delayMs : Nat) : Asked :=
  { asked with
    delayMs := delayMs + asked.delayMs
    hops := hop :: asked.hops.map (·.later delayMs) }

end Asked

/-- How many redirects are followed. -/
def redirectLimit : Nat := 10

/-- Sends a request and follows so many redirects at most, up to a time limit for all of it. -/
def follow (count limitMs : Nat) (network : Network) (request : Request) : Asked :=
  let first := network.hop request
  let (delivery, network) := network.send request
  let delayMs := min delivery.delayMs limitMs
  let ends (reply : Reply) : Asked := { reply, delayMs, hops := [first], network }
  match delivery.within limitMs with
  | none => ends .none
  | some answer =>
    match answer.next? request with
    | none => ends (.answer answer.status answer.body)
    | some next =>
      match count with
      | 0 => ends (.astray (.redirects request.url.print))
      | count + 1 =>
        if next.url.takesRequests then
          (network.follow count (limitMs - delayMs) next).behind first delayMs
        else ends (.astray (.address (some next.url.print)))

/-- Sends a request, if there is one, and waits for the reply up to a time limit. -/
def ask (network : Network) (limitMs : Nat) (request : Except Fault Request) : Asked :=
  match request with
  | .error _ => { reply := .none, delayMs := 0, hops := [], network }
  | .ok request => network.follow redirectLimit limitMs request

/-- The head of an answer to a request comes before a time limit. -/
def Heads (network : Network) (limitMs : Nat) (request : Request) (answer : Answer) : Prop :=
  (network.send request).1.delayMs < limitMs ∧ (network.send request).1.answer = some answer

/-- Each of these requests is the one to which the answer to the one before it sends the client on;
the first one comes after a request to this network. -/
inductive Trail : Network → Request → List Request → Prop where
  | ends {network : Network} {request : Request} : Trail network request []
  | goesOn {network : Network} {request next : Request} {answer : Answer} {more : List Request} :
    (network.send request).1.answer = some answer → answer.Redirects request next →
    Trail (network.send request).2 next more → Trail network request (next :: more)

/-- What is sent to ask a question: nothing if there is no request for it, and otherwise that request
and those to which answers send the client on, up to as many as are followed. -/
inductive Sends (network : Network) : Except Fault Request → List Request → Prop where
  | nothing {fault : Fault} : Sends network (.error fault) []
  | request {request : Request} {more : List Request} :
    network.Trail request more → more.length ≤ redirectLimit →
    Sends network (.ok request) (request :: more)

/-- A client that follows so many redirects at most comes to an answer before a time limit. -/
inductive Reaches : Nat → Nat → Network → Request → Answer → Prop where
  /-- The answer to the request does not send the client on. -/
  | here {count limitMs : Nat} {network : Network} {request : Request} {answer : Answer} :
    network.Heads limitMs request answer → (∀ next, ¬answer.Redirects request next) →
    Reaches count limitMs network request answer
  /-- It does, and there the client comes to an answer in the time that is left. -/
  | onward {count limitMs : Nat} {network : Network} {request next : Request}
      {redirect answer : Answer} :
    network.Heads limitMs request redirect → redirect.Redirects request next →
    next.url.takesRequests = true →
    Reaches count (limitMs - (network.send request).1.delayMs) (network.send request).2 next
      answer →
    Reaches (count + 1) limitMs network request answer

/-- A request can be sent, and the client comes to an answer before the time limit, maybe by
redirects: a status, and the body unless that did not come whole. -/
def Answers (network : Network) (limitMs : Nat) (request : Except Fault Request) (status : Nat)
    (body : Option Body) : Prop :=
  ∃ sent location, request = .ok sent ∧
    Reaches redirectLimit limitMs network sent ⟨status, body, location⟩

/-- A request can be sent, and the answer to it arrives before the time limit. -/
def Replies (network : Network) (limitMs : Nat) (request : Except Fault Request) (status : Nat)
    (body : Option Body) : Prop :=
  ∃ sent location, request = .ok sent ∧ network.Heads limitMs sent ⟨status, body, location⟩

/-- There is no redirect: the answer to a request, if one comes, does not send the client on. -/
def Direct (network : Network) (request : Except Fault Request) : Prop :=
  ∀ sent answer next, request = .ok sent → (network.send sent).1.answer = some answer →
    ¬answer.Redirects sent next

end Network

end DisclosureRelay.Http
