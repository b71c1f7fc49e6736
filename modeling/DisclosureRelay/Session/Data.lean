import DisclosureRelay.Json.Reader
import DisclosureRelay.Session.Address

/-!
# Session data

The page hands over the session as JSON: a pointer that the app follows and a token for the result.
Of the pointer only the address is looked at; its other members, the metadata, are kept as they
are. `Data.parse` reads the JSON, `Data.json` writes it, and `Pointer.relocated` moves a pointer to
another server.
-/

namespace DisclosureRelay.Session

/-- Where the app finds the session. -/
structure Pointer where
  address : String
  metadata : Members

/-- What the page hands over. -/
structure Data where
  pointer : Pointer
  token : String

namespace Pointer

/-- The pointer to the same session at a server. -/
def relocated (pointer : Pointer) (server : String) : Except Failure Pointer :=
  match relocate pointer.address server with
  | .ok address => .ok { pointer with address }
  | .error failure => .error failure

/-- The pointer as a JSON object: the address, then the metadata. -/
def json (pointer : Pointer) : Json :=
  .object (("u", .text pointer.address) :: pointer.metadata)

/-- The members of a pointer that were read. -/
structure Draft where
  address : Option String := none
  metadata : Members := []

open Json Reader in
/-- Reads a member of a pointer. -/
def Draft.member (depth : Nat) (draft : Draft) (name : String) : Reader Draft := do
  if name = "u" then
    if draft.address.isSome then fail (.repeatedMember name)
    else return { draft with address := some (← afterColon text) }
  else
    return { draft with metadata := draft.metadata.insert name (← afterColon (value depth)) }

open Json Reader in
/-- Reads a pointer, which has to be an object. -/
def read (depth : Nat) : Reader Pointer :=
  let expected := "struct SessionPointer"
  cases (fun value => fail (.wrongType (found value) expected)) (fail (.wrongType .list expected))
    (nested depth fun depth => do
      let draft ← members (Draft.member depth) {}
      match draft.address with
      | some address => return { address, metadata := draft.metadata }
      | none => fail (.missingMember "u"))

end Pointer

namespace Data

/-- The session data as a JSON object. -/
def json (data : Data) : Json :=
  .object [("sessionPtr", data.pointer.json), ("token", .text data.token)]

/-- The members of session data that were read. -/
structure Draft where
  pointer : Option Pointer := none
  token : Option String := none

open Json Reader in
/-- Reads a member of session data; members of other names are passed over. -/
def Draft.member (depth : Nat) (draft : Draft) (name : String) : Reader Draft := do
  if name = "sessionPtr" then
    if draft.pointer.isSome then fail (.repeatedMember name)
    else return { draft with pointer := some (← afterColon (Pointer.read depth)) }
  else if name = "token" then
    if draft.token.isSome then fail (.repeatedMember name)
    else return { draft with token := some (← afterColon text) }
  else
    afterColon skip
    return draft

open Json Reader in
/-- Reads session data from an object. -/
def readObject (depth : Nat) : Reader Data := do
  let draft ← members (Draft.member depth) {}
  match draft.pointer, draft.token with
  | none, _ => fail (.missingMember "sessionPtr")
  | some _, none => fail (.missingMember "token")
  | some pointer, some token => return { pointer, token }

open Json Reader in
/-- Reads session data from a list of the pointer and the token. -/
def readList (depth : Nat) : Reader Data := do
  let expected := "struct SessionData with 2 elements"
  if ← moreItems true then
    let pointer ← Pointer.read depth
    if ← moreItems false then
      let token ← text
      listEnd
      return { pointer, token }
    else fail (.wrongLength 1 expected)
  else fail (.wrongLength 0 expected)

open Json Reader in
/-- Reads session data. -/
def read (depth : Nat) : Reader Data :=
  let expected := "struct SessionData"
  cases (fun value => fail (.wrongType (found value) expected)) (nested depth readList)
    (nested depth readObject)

/-- Reads the JSON text of session data. -/
def parse (raw : String) : Except Failure Data :=
  match Json.parse (read Json.depthLimit) raw with
  | .ok data => .ok data
  | .error fault => .error (.configuration ("Malformed session data: " ++ fault.message))

end Data

end DisclosureRelay.Session
