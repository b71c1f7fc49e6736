import DisclosureRelay.Http.Network
import Mathlib.Tactic.Lemma

/-!
# Requests and their answers

A request that is prepared goes to the address that its text names (`prepare_eq_ok`), and what it
brought back is an answer exactly if one arrived (`received_eq_ok`).

`Followed` lists what a client that follows redirects does with a request, and everything about such
a client is an induction over it: what it sends is where the answers send it (`sends_ask`), a peer
gets just that (`network_ask`), and it comes to an answer exactly if one is reached in time
(`arrived_ask`). Where nothing is redirected, one request is sent and its answer is the one that
counts (`Direct.sent_ask`, `Direct.answers_iff`).
-/

namespace DisclosureRelay.Http

variable {method : Method} {address : String} {contentType : Option String} {text : String}
  {reply : Reply} {status : Nat} {body : Option Body}

lemma prepare_eq_ok {request : Request} :
    prepare method address contentType text = .ok request ↔
      ∃ url, webAddress address = .ok url ∧
        request = { method, url, contentType, body := text } := by
  unfold prepare
  cases webAddress address with
  | error fault => simp
  | ok url => simp [eq_comm]

lemma received_eq_ok :
    received address reply = .ok (status, body) ↔ Arrived address reply status body := by
  unfold received Arrived
  cases webAddress address with
  | error fault => simp
  | ok url => cases reply <;> simp

namespace Answer

variable {answer : Answer} {request next other : Request}

/-- The request that an answer sends the client on to is the one to which it redirects. -/
lemma next?_eq_some : answer.next? request = some next ↔ answer.Redirects request next := by
  constructor
  · intro goes
    unfold next? at goes
    split at goes
    · cases goes
    · next url named =>
      obtain ⟨location, namable⟩ := Option.filter_eq_some_iff.1 named
      split at goes
      · next status =>
        cases goes
        exact .elsewhere status location namable
      · split at goes <;> cases goes
        next status => exact .again status location namable
  · intro redirects
    cases redirects with
    | elsewhere status location namable =>
      simp only [next?, location, Option.filter_some, namable, if_true, if_pos status]
    | again status location namable =>
      have own : answer.status ∉ [301, 302, 303] := by
        intro other
        simp only [List.mem_cons, List.not_mem_nil, or_false] at status other
        omega
      simp only [next?, location, Option.filter_some, namable, if_true, if_neg own, if_pos status]

lemma next?_eq_none : answer.next? request = none ↔ ∀ next, ¬answer.Redirects request next := by
  simp only [Option.eq_none_iff_forall_not_mem, Option.mem_def, next?_eq_some]

/-- An answer sends the client on to one request. -/
lemma Redirects.unique (redirects : answer.Redirects request next)
    (redirects' : answer.Redirects request other) : next = other :=
  Option.some.inj ((next?_eq_some.2 redirects).symm.trans (next?_eq_some.2 redirects'))

end Answer

namespace Network

variable {network : Network} {request : Request} {count limitMs : Nat} {answer : Answer}
  {asked : Asked}

/-- What a client that follows redirects does with a request: nothing comes in time, an answer comes
that does not send it on, one comes that does and is one too many or leads nowhere, or it goes on. -/
inductive Followed : Nat → Nat → Network → Request → Asked → Prop where
  | unanswered {count limitMs delayMs : Nat} {network : Network} {request : Request} :
    (∀ answer, ¬network.Heads limitMs request answer) →
    Followed count limitMs network request
      ⟨.none, delayMs, [network.hop request], (network.send request).2⟩
  | answered {count limitMs delayMs : Nat} {network : Network} {request : Request}
      {answer : Answer} :
    network.Heads limitMs request answer → (∀ next, ¬answer.Redirects request next) →
    Followed count limitMs network request
      ⟨.answer answer.status answer.body, delayMs, [network.hop request], (network.send request).2⟩
  | astray {count limitMs delayMs : Nat} {network : Network} {request next : Request}
      {answer : Answer} {fault : Fault} :
    network.Heads limitMs request answer → answer.Redirects request next →
    count = 0 ∨ next.url.takesRequests = false →
    Followed count limitMs network request
      ⟨.astray fault, delayMs, [network.hop request], (network.send request).2⟩
  | onward {count limitMs delayMs : Nat} {network : Network} {request next : Request}
      {answer : Answer} {asked : Asked} :
    network.Heads limitMs request answer → answer.Redirects request next →
    next.url.takesRequests = true →
    Followed count (limitMs - (network.send request).1.delayMs) (network.send request).2 next
      asked →
    Followed (count + 1) limitMs network request (asked.behind (network.hop request) delayMs)

lemma within_eq_some :
    (network.send request).1.within limitMs = some answer ↔
      network.Heads limitMs request answer := by
  unfold Delivery.within Heads
  split
  · next late => simp [Nat.not_lt_of_le late]
  · next timely => simp [Nat.lt_of_not_le timely]

theorem followed (count limitMs : Nat) (network : Network) (request : Request) :
    Followed count limitMs network request (network.follow count limitMs request) := by
  induction count using Nat.strongRecOn generalizing limitMs network request with
  | ind count ih =>
    unfold follow
    cases came : (network.send request).1.within limitMs with
    | none =>
      simp only [came]
      exact .unanswered fun answer heads => by simp [within_eq_some.2 heads] at came
    | some answer =>
      have heads := within_eq_some.1 came
      cases goes : answer.next? request with
      | none =>
        simp only [came, goes]
        exact .answered heads (Answer.next?_eq_none.1 goes)
      | some next =>
        have redirects := Answer.next?_eq_some.1 goes
        simp only [came, goes]
        cases count with
        | zero => exact .astray heads redirects (.inl rfl)
        | succ count =>
          dsimp only
          split
          · next takes =>
            rw [Nat.min_eq_left (Nat.le_of_lt heads.1)]
            exact .onward heads redirects takes (ih count count.lt_succ_self ..)
          · next refuses => exact .astray heads redirects (.inr (by simpa using refuses))

/-! ## What is sent -/

lemma sent_behind (asked : Asked) (hop : Hop) (delayMs : Nat) :
    (asked.behind hop delayMs).sent = hop.request :: asked.sent := by
  simp [Asked.behind, Asked.sent, Hop.later]

/-- A client sends the request and those that answers send it on to, up to as many as it follows. -/
lemma Followed.sent_eq (followed : Followed count limitMs network request asked) :
    ∃ more, asked.sent = request :: more ∧ more.length ≤ count ∧ network.Trail request more := by
  induction followed with
  | unanswered | answered | astray => exact ⟨[], rfl, Nat.zero_le _, .ends⟩
  | onward heads redirects _ _ ih =>
    obtain ⟨more, sent, short, trail⟩ := ih
    refine ⟨_ :: more, ?_, Nat.succ_le_succ short, .goesOn heads.2 redirects trail⟩
    rw [sent_behind, sent]
    rfl

theorem sends_ask (network : Network) (limitMs : Nat) (request : Except Fault Request) :
    network.Sends request (network.ask limitMs request).sent := by
  cases request with
  | error fault => exact .nothing
  | ok request =>
    obtain ⟨more, sent, short, trail⟩ := (followed redirectLimit limitMs network request).sent_eq
    rw [ask, sent]
    exact .request trail short

/-- A peer gets what is sent and nothing else. -/
lemma Followed.network_eq (followed : Followed count limitMs network request asked)
    {decide : List Request → Delivery} {before : List Request}
    (peer : network = .answering decide before) :
    asked.network = .answering decide (before ++ asked.sent) := by
  induction followed generalizing before with
  | unanswered | answered | astray => rw [peer]; rfl
  | onward _ _ _ _ ih =>
    subst peer
    refine (ih rfl).trans ?_
    rw [sent_behind, List.append_assoc]
    rfl

theorem network_ask (decide : List Request → Delivery) (before : List Request) (limitMs : Nat)
    (request : Except Fault Request) :
    let asked := (answering decide before).ask limitMs request
    asked.network = .answering decide (before ++ asked.sent) := by
  cases request with
  | error fault => simp [ask, Asked.sent]
  | ok request => exact (followed redirectLimit limitMs _ request).network_eq rfl

/-- Who is sent elsewhere asks there, and takes the time for both. -/
example :
    let url (path : String) : Url :=
      { scheme := "http", host := some "peer", path, query := none, fragment := none }
    let elsewhere : Answer := { status := 302, body := none, location := some (url "/there") }
    let found : Answer := { status := 200, body := none }
    let peer (sent : List Request) : Delivery :=
      { seen := true, delayMs := 5, answer := some (if sent.length = 1 then elsewhere else found) }
    let asked := (answering peer []).ask 1000 (.ok ⟨.post, url "/here", none, "text"⟩)
    asked.sent.map (·.url.path) = ["/here", "/there"] ∧ asked.delayMs = 10 := by
  decide

/-! ## What comes back -/

/-- A request gets one answer. -/
lemma Heads.unique {other : Answer} (heads : network.Heads limitMs request answer)
    (heads' : network.Heads limitMs request other) : answer = other :=
  Option.some.inj (heads.2.symm.trans heads'.2)

/-- A client comes to an answer exactly if it reaches one. -/
lemma Followed.reply_eq_answer (followed : Followed count limitMs network request asked) :
    asked.reply = .answer status body ↔
      ∃ location, Reaches count limitMs network request ⟨status, body, location⟩ := by
  induction followed with
  | unanswered nothing =>
    simp only [reduceCtorEq, false_iff]
    rintro ⟨location, reached⟩
    cases reached with
    | here heads | onward heads => exact nothing _ heads
  | @answered _ _ _ _ _ answer heads ends =>
    constructor
    · rintro ⟨⟩
      exact ⟨answer.location, .here heads ends⟩
    · rintro ⟨location, reached⟩
      cases reached with
      | here heads' => rw [heads.unique heads']
      | onward heads' redirects => exact absurd (heads.unique heads' ▸ redirects) (ends _)
  | astray heads redirects lost =>
    simp only [reduceCtorEq, false_iff]
    rintro ⟨location, reached⟩
    cases reached with
    | here heads' ends => exact ends _ (heads.unique heads' ▸ redirects)
    | onward heads' redirects' takes =>
      cases heads.unique heads'
      cases redirects.unique redirects'
      simp [takes] at lost
  | onward heads redirects takes _ ih =>
    refine ih.trans (exists_congr fun location => ?_)
    refine ⟨.onward heads redirects takes, fun reached => ?_⟩
    cases reached with
    | here heads' ends => exact absurd (heads.unique heads' ▸ redirects) (ends _)
    | onward heads' redirects' _ reached =>
      cases heads.unique heads'
      cases redirects.unique redirects'
      exact reached

/-- An answer to a request arrives exactly if the client comes to one within the time limit. -/
lemma arrived_ask (network : Network) (limitMs : Nat) :
    Arrived address
        (network.ask limitMs (prepare method address contentType text)).reply status body ↔
      network.Answers limitMs (prepare method address contentType text) status body := by
  cases asked : prepare method address contentType text with
  | error fault => simp [Arrived, ask, Answers]
  | ok request =>
    obtain ⟨url, web, -⟩ := prepare_eq_ok.1 asked
    have answered : (network.ask limitMs (.ok request)).reply = .answer status body ↔
        ∃ location, Reaches redirectLimit limitMs network request ⟨status, body, location⟩ :=
      (followed ..).reply_eq_answer
    simpa [Arrived, web, Answers] using answered

/-! ## Without redirects -/

/-- A request that is not redirected is the only one that is sent. -/
lemma Followed.hops_of_direct (followed : Followed count limitMs network request asked)
    (direct : network.Direct (.ok request)) : asked.hops = [network.hop request] := by
  cases followed with
  | unanswered | answered | astray => rfl
  | onward heads redirects => exact absurd redirects (direct _ _ _ rfl heads.2)

/-- Where nothing is redirected, what is sent is the request, and it is seen if it was delivered. -/
theorem Direct.sent_ask {request : Except Fault Request} (direct : network.Direct request)
    (limitMs : Nat) :
    let asked := network.ask limitMs request
    asked.sent = request.toOption.toList ∧
      asked.seen = request.toOption.toList.filter fun sent => (network.send sent).1.seen := by
  cases request with
  | error fault => exact ⟨rfl, rfl⟩
  | ok request =>
    have hops : (network.ask limitMs (.ok request)).hops = [network.hop request] :=
      (followed redirectLimit limitMs network request).hops_of_direct direct
    cases delivered : (network.send request).1.seen <;>
      simp [Asked.sent, Asked.seen, hops, hop, delivered, Except.toOption]

/-- The answer to a request that is not redirected is the one the client comes to. -/
theorem Direct.answers_iff {request : Except Fault Request} (direct : network.Direct request) :
    network.Answers limitMs request status body ↔ network.Replies limitMs request status body := by
  refine exists_congr fun sent => exists_congr fun location => and_congr_right fun own => ?_
  constructor
  · intro reached
    cases reached with
    | here heads => exact heads
    | onward heads redirects => exact absurd redirects (direct _ _ _ own heads.2)
  · exact fun heads => .here heads fun next => direct _ _ next own heads.2

end Network

end DisclosureRelay.Http
