import DisclosureRelay.Failure

/-!
# Session addresses

A session address ends in `irma/session/` and the id of the session. `id?` searches the address for
the id from the front, `relocate` gives the address of the same session at another server, and
`Names` says declaratively that an address names an id.
-/

namespace DisclosureRelay.Session

/-- What stands in front of the id in a session address. -/
def pathSegment : String := "irma/session/"

/-- The address ends in the path segment and a non-empty id without a slash. -/
def Names (address id : String) : Prop :=
  id ≠ "" ∧ '/' ∉ id.toList ∧ ∃ front : String, address = front ++ pathSegment ++ id

/-- The id at the front of a text: behind the path segment up to the end, not empty and without a
slash. -/
def idAt? (s : List Char) : Option (List Char) :=
  let id := s.drop pathSegment.toList.length
  if pathSegment.toList.isPrefixOf s ∧ id ≠ [] ∧ '/' ∉ id then some id else none

/-- The id at the first place of a text where there is one. -/
def search? : List Char → Option (List Char)
  | [] => none
  | c :: rest =>
    match idAt? (c :: rest) with
    | some id => some id
    | none => search? rest

/-- The id in a session address. -/
def id? (address : String) : Option String :=
  (search? address.toList).map String.ofList

/-- The failure of an address that names no session. -/
def noId (address : String) : Failure :=
  .configuration ("Session pointer does not contain " ++ pathSegment ++ "<id>: " ++ address)

/-- The id in a session address, or the failure of an address that has none. -/
def id (address : String) : Except Failure String :=
  match id? address with
  | some id => .ok id
  | none => .error (noId address)

/-- A text without the slashes at its end. -/
def trimSlashes (text : String) : String :=
  String.ofList (text.toList.reverse.dropWhile (· = '/')).reverse

/-- The address of a session at a server. -/
def addressAt (server id : String) : String :=
  trimSlashes server ++ "/" ++ pathSegment ++ id

/-- The address of the same session at a server. -/
def relocate (address server : String) : Except Failure String :=
  match id address with
  | .ok id => .ok (addressAt server id)
  | .error failure => .error failure

end DisclosureRelay.Session
