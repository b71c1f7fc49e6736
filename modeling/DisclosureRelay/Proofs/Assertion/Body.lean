import DisclosureRelay.Assertion.Exchange
import DisclosureRelay.Proofs.Json.Printer
import DisclosureRelay.Proofs.Session.Relocation

/-!
# What an exchange posts

The body of an exchange has the members that `Exchange.Says` names and no others, in its text and in
the value that is read from it, so that bodies are the same only if they say the same. An abort goes
to an endpoint of its own (`abortUrl_ne`), whatever slashes the endpoint for errors ends in.
-/

namespace DisclosureRelay

/-- The endpoint for aborts is never the one for errors: it has letters where that one has its last
slashes or is over. -/
lemma Session.Config.abortUrl_ne (config : Session.Config) :
    config.abortUrl ≠ config.errorAssertUrl := by
  intro same
  obtain ⟨count, text⟩ := Session.exists_slashes config.errorAssertUrl
  have tail : "/abort" = Session.slashes count :=
    (String.append_right_inj _).1 (same.trans text)
  have letter : 'a' ∈ (Session.slashes count).toList := tail ▸ by decide
  rw [Session.slashes, String.toList_ofList] at letter
  exact absurd (List.eq_of_mem_replicate letter) (by decide)

namespace Exchange

/-- What an exchange says, member by member: the parameters, and the token if it is a success. -/
inductive Says (config : Session.Config) : Exchange → String → Json → Prop where
  | parameters {exchange : Exchange} : Says config exchange "parameters" (.text config.parameters)
  | token {token : String} : Says config (.success token) "token" (.text token)

variable {config config' : Session.Config} {exchange exchange' : Exchange}

lemma said_iff {name : String} {value : Json} :
    exchange.Says config name value ↔
      (name = "parameters" ∧ value = .text config.parameters) ∨
        name = "token" ∧ ∃ token, exchange = .success token ∧ value = .text token := by
  constructor
  · rintro (_ | @⟨token⟩)
    · exact .inl ⟨rfl, rfl⟩
    · exact .inr ⟨rfl, token, rfl, rfl⟩
  · rintro (⟨rfl, rfl⟩ | ⟨rfl, token, rfl, rfl⟩)
    · exact .parameters
    · exact .token

/-- An exchange says texts, each under a name of its own. -/
lemma exists_members (config : Session.Config) (exchange : Exchange) :
    ∃ members : Members, exchange.content config.parameters = .object members ∧
      (members.map (·.1)).Nodup ∧ Json.RealFreeMembers members ∧ Json.OrderedMembers members ∧
      (Json.object members).depth ≤ Json.depthLimit ∧
      ∀ name value, (name, value) ∈ members ↔ exchange.Says config name value := by
  have within : 1 ≤ Json.depthLimit := by decide
  cases exchange with
  | success token =>
    have names : ["token", "parameters"].Nodup := by decide
    refine ⟨_, rfl, names, ⟨trivial, trivial, trivial⟩, ⟨trivial, trivial, trivial⟩, within,
      fun name value => ?_⟩
    simp [said_iff, or_comm]
  | error | abort =>
    have names : ["parameters"].Nodup := by decide
    refine ⟨_, rfl, names, ⟨trivial, trivial⟩, ⟨trivial, trivial⟩, within,
      fun name value => ?_⟩
    simp [said_iff]

/-- The text of a body shows what the exchange says. -/
lemma spells_body (config : Session.Config) (exchange : Exchange) :
    ∃ shown, Json.Spells (exchange.body config).toList (.object shown) ∧
      (shown.map (·.1)).Nodup ∧
      ∀ name value, (∃ tree, (name, tree) ∈ shown ∧ tree.Holds value) ↔
        exchange.Says config name value := by
  obtain ⟨members, content, nodup, free, ordered, within, said⟩ := exists_members config exchange
  obtain ⟨⟨shown, spells, once, holds⟩, -⟩ := Json.print_object nodup free ordered within
  rw [← content] at spells
  exact ⟨shown, spells, once, fun name value => (holds name value).trans (said name value)⟩

/-- The value of a body is what the exchange says. -/
lemma ofText_body (config : Session.Config) (exchange : Exchange) :
    ∃ members, Json.ofText (exchange.body config) = .ok (.object members) ∧
      (members.map (·.1)).Nodup ∧
      ∀ name value, (name, value) ∈ members ↔ exchange.Says config name value := by
  obtain ⟨members, content, nodup, free, ordered, within, said⟩ := exists_members config exchange
  obtain ⟨-, values, read, -, perm⟩ := Json.print_object nodup free ordered within
  rw [← content] at read
  refine ⟨values, read, (perm.map (·.1)).nodup_iff.2 nodup, fun name value => ?_⟩
  exact perm.mem_iff.trans (said name value)

/-- Exchanges that carry the same token, or none, say the same. -/
lemma content_of_tokens (same : ∀ token, exchange' = .success token ↔ exchange = .success token)
    (parameters : String) : exchange'.content parameters = exchange.content parameters := by
  cases exchange' with
  | success token => rw [(same token).1 rfl]
  | error | abort =>
    cases exchange with
    | success token => cases (same token).2 rfl
    | error | abort => rfl

/-- Two bodies are the same exactly if they carry the same parameters and the same token, or both
none. -/
lemma body_eq_iff :
    exchange'.body config' = exchange.body config ↔
      config'.parameters = config.parameters ∧
        ∀ token, exchange' = .success token ↔ exchange = .success token := by
  constructor
  · intro same
    obtain ⟨members, read, -, said⟩ := ofText_body config exchange
    obtain ⟨members', read', -, said'⟩ := ofText_body config' exchange'
    rw [same, read] at read'
    cases read'
    have alike (name value) := (said' name value).symm.trans (said name value)
    constructor
    · simpa [said_iff] using alike "parameters" (.text config'.parameters)
    · intro token
      simpa [said_iff] using alike "token" (.text token)
  · rintro ⟨parameters, tokens⟩
    rw [body, body, parameters, content_of_tokens tokens]

/-- The body of an exchange is an object that has the parameters as they are and, for a success
alone, the token as it is; no other member stands in its text, and none twice. Bodies are the same
only if they carry the same parameters and the same token, or both none. An abort goes to the
endpoint for errors with `/abort` in the place of the slashes at its end, which is another one. -/
theorem body_of_exchange (config : Session.Config) (exchange : Exchange) :
    (∃ shown, Json.Spells (exchange.body config).toList (.object shown) ∧
        (shown.map (·.1)).Nodup ∧
        ∀ name value, (∃ tree, (name, tree) ∈ shown ∧ tree.Holds value) ↔
          exchange.Says config name value) ∧
      (∃ members, Json.ofText (exchange.body config) = .ok (.object members) ∧
        (members.map (·.1)).Nodup ∧
        ∀ name value, (name, value) ∈ members ↔ exchange.Says config name value) ∧
      (∀ (config' : Session.Config) (exchange' : Exchange),
        exchange'.body config' = exchange.body config ↔
          config'.parameters = config.parameters ∧
            ∀ token, exchange' = .success token ↔ exchange = .success token) ∧
      (∃ front count, config.errorAssertUrl = front ++ Session.slashes count ∧
        front.toList.getLast? ≠ some '/' ∧ Exchange.abort.endpoint config = front ++ "/abort") ∧
      Exchange.abort.endpoint config ≠ Exchange.error.endpoint config := by
  obtain ⟨count, text⟩ := Session.exists_slashes config.errorAssertUrl
  refine ⟨spells_body config exchange, ofText_body config exchange,
    fun config' exchange' => body_eq_iff, ⟨_, count, text, ?_, rfl⟩, config.abortUrl_ne⟩
  exact Session.getLast?_trimSlashes config.errorAssertUrl

end Exchange

end DisclosureRelay
