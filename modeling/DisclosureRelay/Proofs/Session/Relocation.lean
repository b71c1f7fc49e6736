import DisclosureRelay.Proofs.Session.Address
import DisclosureRelay.Session.Config

/-!
# Moving a session to another server

An address at a server names the session it was made for, whatever the server is
(`names_addressAt`), so that moving an address a second time forgets the first server. Of a server
only the slashes at its end do not matter: `sameServer_iff` says that two servers are trimmed to the
same text exactly if they differ in those. `relocation_of_address` puts the two together.
-/

namespace DisclosureRelay.Session

/-- A text of so many slashes. -/
def slashes (count : Nat) : String :=
  String.ofList (List.replicate count '/')

/-- Two servers that are the same but for the slashes at their ends. -/
def SameServer (server other : String) : Prop :=
  ∃ front count count', server = front ++ slashes count ∧ other = front ++ slashes count'

variable {address moved name name' server other text : String} {failure : Failure}

/-! ## Slashes at the end -/

lemma trimSlashes_append (text : String) (count : Nat) :
    trimSlashes (text ++ slashes count) = trimSlashes text := by
  have dropped : List.dropWhile (fun c => decide (c = '/')) (List.replicate count '/') = [] := by
    simp
  simp only [trimSlashes, slashes, String.toList_append, String.toList_ofList, List.reverse_append,
    List.reverse_replicate, List.dropWhile_append, dropped]
  rfl

/-- What is trimmed from a text are slashes. -/
lemma exists_slashes (text : String) : ∃ count, text = trimSlashes text ++ slashes count := by
  have trailing : ∀ c ∈ text.toList.rtakeWhile (· = '/'), c = '/' := fun c mem => by
    simpa using List.mem_rtakeWhile_imp mem
  refine ⟨(text.toList.rtakeWhile (· = '/')).length, ?_⟩
  rw [trimSlashes, slashes, ← List.eq_replicate_of_mem trailing, ← String.ofList_append,
    ← List.rdropWhile, List.rdropWhile_append_rtakeWhile, String.ofList_toList]

/-- No slash is left at the end of a trimmed text. -/
lemma getLast?_trimSlashes (text : String) : (trimSlashes text).toList.getLast? ≠ some '/' := by
  rw [trimSlashes, String.toList_ofList, List.getLast?_reverse]
  intro first
  have other := List.head?_dropWhile_not (fun c => decide (c = '/')) text.toList.reverse
  rw [first] at other
  exact absurd rfl (of_decide_eq_false other)

lemma sameServer_iff : SameServer server other ↔ trimSlashes server = trimSlashes other := by
  constructor
  · rintro ⟨front, count, count', rfl, rfl⟩
    rw [trimSlashes_append, trimSlashes_append]
  · intro same
    obtain ⟨count, text⟩ := exists_slashes server
    obtain ⟨count', text'⟩ := exists_slashes other
    exact ⟨trimSlashes server, count, count', text, same ▸ text'⟩

/-! ## Addresses at a server -/

/-- An address at a server names the session, even if the server ends in the path segment itself. -/
lemma names_addressAt (names : Names address name) (server : String) :
    Names (addressAt server name) name :=
  ⟨names.1, names.2.1, trimSlashes server ++ "/", rfl⟩

/-- At one server, other sessions have other addresses. -/
lemma addressAt_inj : addressAt server name = addressAt server name' ↔ name = name' :=
  String.append_right_inj _

/-- The addresses of a session at two servers are the same if the servers are. -/
lemma addressAt_eq_iff :
    addressAt server name = addressAt other name ↔ SameServer server other := by
  rw [sameServer_iff, addressAt, addressAt, String.append_left_inj, String.append_left_inj,
    String.append_left_inj]

lemma relocate_eq_ok :
    relocate address server = .ok moved ↔
      ∃ name, Session.id address = .ok name ∧ moved = addressAt server name := by
  unfold relocate
  cases Session.id address with
  | ok name => simp [eq_comm]
  | error failure => simp

lemma relocate_eq_error :
    relocate address server = .error failure ↔ Session.id address = .error failure := by
  unfold relocate
  cases Session.id address <;> simp

/-- An address that was moved has the id it had before. -/
lemma id_of_relocate (relocated : relocate address server = .ok moved) :
    Session.id moved = Session.id address := by
  obtain ⟨name, id?, rfl⟩ := relocate_eq_ok.1 relocated
  rw [id?]
  exact id_eq_ok.2 (names_addressAt (id_eq_ok.1 id?) server)

/-- Moving an address looks at nothing of it but the id, unless there is none. -/
lemma relocate_congr (same : Session.id moved = Session.id address) (server : String) :
    relocate moved server = relocate address server := by
  rw [relocate, relocate, same]

lemma relocate_sameServer (same : SameServer server other) (address : String) :
    relocate address server = relocate address other := by
  simp only [relocate, addressAt, sameServer_iff.1 same]

/-- At one server, two addresses become the same if they name the same session. -/
lemma relocate_eq_relocate {address' : String} :
    (∃ moved, relocate address server = .ok moved ∧ relocate address' server = .ok moved) ↔
      ∃ name, Session.id address = .ok name ∧ Session.id address' = .ok name := by
  simp only [relocate_eq_ok]
  constructor
  · rintro ⟨moved, ⟨name, id?, rfl⟩, name', id?', eq⟩
    exact ⟨name, id?, addressAt_inj.1 eq ▸ id?'⟩
  · rintro ⟨name, id?, id?'⟩
    exact ⟨_, ⟨name, id?, rfl⟩, name, id?', rfl⟩

/-- An address that names a session becomes the same at two servers if the servers are the same. -/
lemma relocate_eq_at_other (id? : Session.id address = .ok name) :
    relocate address server = relocate address other ↔ SameServer server other := by
  rw [relocate_eq_ok.2 ⟨name, id?, rfl⟩, relocate_eq_ok.2 ⟨name, id?, rfl⟩, Except.ok.injEq,
    addressAt_eq_iff]

/-! ## Servers of a configuration -/

section config
variable {config : Config} {data : Data}

lemma pointer_sameServer (same : SameServer server config.server) :
    { config with server }.pointer = config.pointer := by
  simp only [Config.pointer, Config.sessionData, Pointer.relocated, relocate_sameServer same]

lemma resultUrl_eq (given : config.session = some data) (server : String) :
    { config with server }.resultUrl =
      .ok (trimSlashes server ++ "/session/" ++ data.token ++ "/result-jwt") := by
  simp only [Config.resultUrl, Config.sessionData, given]

/-- The result of a session is found at the same place if the servers are the same. -/
lemma resultUrl_eq_iff (given : config.session = some data) :
    { config with server }.resultUrl = config.resultUrl ↔ SameServer server config.server := by
  have held : config.resultUrl = _ := resultUrl_eq given config.server
  rw [resultUrl_eq given server, held, sameServer_iff, Except.ok.injEq, String.append_left_inj,
    String.append_left_inj, String.append_left_inj]

lemma resultUrl_sameServer (same : SameServer server config.server) :
    { config with server }.resultUrl = config.resultUrl := by
  simp only [Config.resultUrl, Config.sessionData, sameServer_iff.1 same]

end config

/-- An address cannot be moved to a server exactly if it names no session, for the same reason at
every server. An address that was moved has the id it had before and is moved on as if it had never
been moved, so that moving it again to the same server changes nothing. At one server two addresses
become the same exactly if they have the same id. Of a server only the slashes at its end do not
matter, for addresses, for the pointer of a configuration and for the place of its result. -/
theorem relocation_of_address (address server : String) :
    (∀ failure, relocate address server = .error failure ↔ Session.id address = .error failure) ∧
      (∀ moved, relocate address server = .ok moved →
        Session.id moved = Session.id address ∧
          (∀ other, relocate moved other = relocate address other) ∧
          relocate moved server = .ok moved) ∧
      (∀ address', (∃ moved, relocate address server = .ok moved ∧
          relocate address' server = .ok moved) ↔
        ∃ name, Session.id address = .ok name ∧ Session.id address' = .ok name) ∧
      (∀ other, SameServer server other → relocate address server = relocate address other) ∧
      (∀ other name, Session.id address = .ok name →
        (relocate address server = relocate address other ↔ SameServer server other)) ∧
      ∀ config : Config,
        (SameServer server config.server →
          { config with server }.pointer = config.pointer ∧
            { config with server }.resultUrl = config.resultUrl) ∧
        ∀ data, config.session = some data →
          ({ config with server }.resultUrl = config.resultUrl ↔
            SameServer server config.server) := by
  refine ⟨fun failure => relocate_eq_error, fun moved relocated => ?_,
    fun address' => relocate_eq_relocate, fun other same => relocate_sameServer same address,
    fun other name id? => relocate_eq_at_other id?, fun config => ⟨fun same => ?_, ?_⟩⟩
  · have same := id_of_relocate relocated
    exact ⟨same, relocate_congr same, (relocate_congr same server).trans relocated⟩
  · exact ⟨pointer_sameServer same, resultUrl_sameServer same⟩
  · exact fun data given => resultUrl_eq_iff given

end DisclosureRelay.Session
