import DisclosureRelay.Http.Host

/-!
# Addresses

`Url.parse?` reads an absolute address as browsers do: blanks around it and line breaks in it are
dropped, the scheme becomes small letters, steps such as `..` are taken, and characters that may not
stand in an address are given by their bytes. How the rest is read depends on the kind of its
scheme: an address of the web has a host, a file may have one, and of any other address only the
form is known. `Url.print` writes the address again.
-/

namespace DisclosureRelay.Http

/-- Kinds of schemes. -/
inductive SchemeKind where
  /-- An address with a host, and a port that need not be given. -/
  | web (port : Nat)
  | file
  | other
  deriving DecidableEq

namespace SchemeKind

/-- The kind of a scheme. -/
def ofScheme (scheme : String) : SchemeKind :=
  match scheme with
  | "http" | "ws" => .web 80
  | "https" | "wss" => .web 443
  | "ftp" => .web 21
  | "file" => .file
  | _ => .other

/-- The port that a scheme stands for. -/
def defaultPort? : SchemeKind → Option Nat
  | .web port => some port
  | _ => none

/-- Whether a character parts the pieces of a path. -/
def isSeparator (kind : SchemeKind) (c : Char) : Bool :=
  c == '/' || (c == '\\' && kind != .other)

/-- Whether a character ends what stands between the scheme and the path. -/
def isEnd (kind : SchemeKind) (c : Char) : Bool :=
  kind.isSeparator c || c == '?' || c == '#'

/-- The characters other than controls that no query holds. -/
def reservedInQuery (kind : SchemeKind) : List Char :=
  match kind with
  | .other => [' ', '"', '#', '<', '>']
  | _ => [' ', '"', '#', '<', '>', '\'']

end SchemeKind

/-- An absolute address. -/
structure Url where
  scheme : String
  /-- Credentials that cannot be read; those that can be are taken out of an address. -/
  credentials : Option String := none
  /-- The host, which is empty if nothing stands in its place. -/
  host : Option String
  port : Option Nat := none
  path : String
  query : Option String
  fragment : Option String
  deriving DecidableEq

namespace Url

/-- What stands between the scheme and the path. -/
def authority (url : Url) : String :=
  match url.host with
  | none => ""
  | some host =>
    "//" ++ (match url.credentials with | none => "" | some text => text ++ "@")
      ++ host
      ++ (match url.port with | none => "" | some port => ":" ++ toString port)

/-- The address as the receiver of a request sees it: without the fragment. -/
def absolute (url : Url) : String :=
  url.scheme ++ ":" ++ url.authority ++ url.path
    ++ (match url.query with | none => "" | some query => "?" ++ query)

/-- The whole address. -/
def print (url : Url) : String :=
  url.absolute ++ (match url.fragment with | none => "" | some part => "#" ++ part)

/-- Whether a request can name the host of an address: some characters stand in no request. -/
def isNamable (url : Url) : Bool :=
  !(url.host.getD "").toList.any ['"', '\x60', '\x7b', '\x7d'].contains

/-- Whether requests can be sent to an address: it is one of the web, and its host can be named. -/
def takesRequests (url : Url) : Bool :=
  (url.scheme == "http" || url.scheme == "https") && url.isNamable

/-- Drops the blanks and controls around a text and the line breaks and tabs in it. -/
def clean (s : List Char) : List Char :=
  let isEdge (c : Char) : Bool := c.toNat ≤ 0x20
  let front := s.dropWhile isEdge
  let both := (front.reverse.dropWhile isEdge).reverse
  both.filter fun c => c ≠ '\t' ∧ c ≠ '\n' ∧ c ≠ '\r'

/-- The scheme at the front of a text, in small letters, and what follows the colon. -/
def splitScheme (s : List Char) : Option (String × List Char) :=
  let isPart (c : Char) : Bool := c.isAlphanum || c == '+' || c == '-' || c == '.'
  match s, s.dropWhile isPart with
  | c :: _, ':' :: rest =>
    if c.isAlpha then some (String.ofList ((s.takeWhile isPart).map Char.toLower), rest) else none
  | _, _ => none

/-- The characters other than controls that no piece of a path holds. -/
def reservedInPath : List Char := [' ', '"', '<', '>', '\x60', '#', '?', '\x7b', '\x7d']

/-- The characters other than controls that no credentials hold. -/
def reservedInCredentials : List Char :=
  reservedInPath ++ ['/', ':', ';', '=', '@', '[', '\\', ']', '^', '|']

/-- The characters other than controls that no fragment holds. -/
def reservedInFragment : List Char := [' ', '"', '<', '>', '\x60']

/-- What stands before the last `@` of an authority, if there is one, and what follows. -/
def splitCredentials (kind : SchemeKind) (s : List Char) : Option (List Char) × List Char :=
  let area := s.takeWhile (!kind.isEnd ·)
  if area.contains '@' then
    let place := (area.reverse.takeWhile (· ≠ '@')).length
    (some (area.take (area.length - place - 1)), s.drop (area.length - place))
  else (none, s)

/-- The name and the password of credentials. -/
def splitPassword (credentials : List Char) : List Char × List Char :=
  (credentials.takeWhile (· ≠ ':'), (credentials.dropWhile (· ≠ ':')).drop 1)

/-- Whether the bytes that a text stands for are themselves a text. -/
def standsForText (s : List Char) : Bool :=
  let bytes := Text.Percent.decode s
  Text.Utf8.encode (Text.Utf8.decode bytes) == bytes

/-- What an address keeps of credentials: all of them if the name cannot be read, or if there is
only a password and it cannot be read. -/
def keptCredentials (credentials : List Char) : Option String :=
  let (name, password) := splitPassword credentials
  if standsForText name ∧ (name ≠ [] ∨ password = [] ∨ standsForText password) then none
  else
    let encode := Text.Percent.encodeWith reservedInCredentials
    some (String.ofList (encode name ++ if password.isEmpty then [] else ':' :: encode password))

/-- The text of a host and what follows. A colon ends it, unless it stands in brackets. -/
def splitHost (kind : SchemeKind) (inBrackets : Bool) : List Char → List Char × List Char
  | [] => ([], [])
  | c :: rest =>
    if kind.isEnd c ∨ (c = ':' ∧ !inBrackets) then ([], c :: rest)
    else
      let (host, rest) := splitHost kind (c == '[' || (inBrackets && c != ']')) rest
      (c :: host, rest)

/-- The port behind a colon, if one is given, and what follows. -/
def readPort? (s : List Char) : Option (Option Nat × List Char) :=
  let digits := s.takeWhile Char.isDigit
  let rest := s.dropWhile Char.isDigit
  let port := Nat.ofDigitChars 10 digits 0
  let isBehind (c : Char) : Bool := c == '/' || c == '\\' || c == '?' || c == '#'
  if port > 65535 ∨ rest.head?.any (!isBehind ·) then none
  else some (if digits.isEmpty then none else some port, rest)

/-- What stands between the scheme and the path. -/
structure Authority where
  credentials : Option String
  host : String
  port : Option Nat

/-- Reads an authority, and gives what follows. There are no credentials and no port without a
host. -/
def readAuthority? (kind : SchemeKind) (s : List Char) : Option (Authority × List Char) := do
  let (credentials, s) := splitCredentials kind s
  let isNamed := credentials.any fun given => splitPassword given != ([], [])
  let (name, rest) := splitHost kind false s
  let host ← if kind = .other then opaqueHost? name else host? name
  let (port, rest) ← match rest with
    | ':' :: behind => if host.isEmpty then none else readPort? behind
    | rest => some (none, rest)
  if (host.isEmpty ∧ isNamed) ∨ (credentials = some [] ∧ s.head?.any kind.isEnd) then none
  else
    some ({ credentials := credentials.bind keptCredentials, host
            port := if port = kind.defaultPort? then none else port }, rest)

/-- Whether a piece of a path stays where it is. -/
def isDot (piece : List Char) : Bool :=
  piece == ['.'] || piece.map Char.toLower == ['%', '2', 'e']

/-- Whether a piece of a path goes one step up. -/
def isDotDot (piece : List Char) : Bool :=
  ["..", ".%2e", "%2e.", "%2e%2e"].contains (String.ofList (piece.map Char.toLower))

/-- Whether a piece of a path names a drive: a letter and a colon, or a bar in its place. -/
def isDrive (piece : List Char) : Bool :=
  match piece with
  | [letter, sign] => letter.isAlpha && (sign == ':' || sign == '|')
  | _ => false

/-- A piece of a path, with a colon if it names a drive. -/
def asDrive (piece : List Char) : List Char :=
  if isDrive piece then piece.take 1 ++ [':'] else piece

/-- Takes the steps of a path; `above` holds the pieces so far, the last one first. No step leads
out of a drive, and the first piece of a file may name one. -/
def steps (kind : SchemeKind) (above : List (List Char)) : List (List Char) → List (List Char)
  | [] => above.reverse
  | piece :: rest =>
    let ending := if rest.isEmpty then [[]] else []
    if isDotDot piece then
      steps kind (ending ++ if above.head?.any isDrive then above else above.drop 1) rest
    else if isDot piece then steps kind (ending ++ above) rest
    else
      let piece := Text.Percent.encodeWith reservedInPath piece
      steps kind ((if kind = .file ∧ above.isEmpty then asDrive piece else piece) :: above) rest

/-- The pieces of a path in its canonical form, from what stands before the query. -/
def pieces (kind : SchemeKind) (s : List Char) : List (List Char) :=
  let s := if s.head?.any kind.isSeparator then s.drop 1 else s
  steps kind [] (s.splitOnP kind.isSeparator)

/-- The text of a path. -/
def pathText (pieces : List (List Char)) : String :=
  String.ofList (pieces.flatMap ('/' :: ·))

/-- What stands before the query and the fragment. -/
def beforeQuery (s : List Char) : List Char :=
  s.takeWhile fun c => c ≠ '?' ∧ c ≠ '#'

/-- The query, if there is one. -/
def query? (kind : SchemeKind) (s : List Char) : Option String :=
  match (s.takeWhile (· ≠ '#')).dropWhile (· ≠ '?') with
  | [] => none
  | _ :: query => some (String.ofList (Text.Percent.encodeWith kind.reservedInQuery query))

/-- The fragment, if there is one. -/
def fragment? (s : List Char) : Option String :=
  match s.dropWhile (· ≠ '#') with
  | [] => none
  | _ :: fragment => some (String.ofList (Text.Percent.encodeWith reservedInFragment fragment))

/-- Reads an address of the web behind its scheme. -/
def readWeb? (scheme : String) (kind : SchemeKind) (s : List Char) : Option Url := do
  let (authority, s) ← readAuthority? kind (s.dropWhile kind.isSeparator)
  some
    { scheme, credentials := authority.credentials, host := some authority.host
      port := authority.port, path := pathText (pieces kind (beforeQuery s))
      query := query? kind s, fragment := fragment? s }

/-- The host of a file, which is empty on this machine, and what follows. -/
def readFileHost? (s : List Char) : Option (String × List Char) :=
  match s with
  | a :: b :: rest =>
    if SchemeKind.file.isSeparator a ∧ SchemeKind.file.isSeparator b then
      let name := rest.takeWhile (!SchemeKind.file.isEnd ·)
      if isDrive name then some ("", rest)
      else if name.isEmpty then some ("", rest)
      else
        (host? name).map fun host =>
          (if host = "localhost" then "" else host, rest.drop name.length)
    else some ("", s)
  | s => some ("", s)

/-- Reads the address of a file behind its scheme. A drive is always on this machine, and no path of
a file begins with an empty piece. -/
def readFile? (scheme : String) (s : List Char) : Option Url := do
  let (host, s) ← readFileHost? s
  let all := pieces .file (beforeQuery s)
  let shown := all.dropWhile (·.isEmpty)
  some
    { scheme, host := some (if all.head?.any isDrive then "" else host)
      path := if shown.isEmpty then "/" else pathText shown
      query := query? .file s, fragment := fragment? s }

/-- The path of an address of which only the form is known; without a host it begins with a dot
where it would look like one. -/
def otherPath (isHosted : Bool) (s : List Char) : String :=
  if s.head? = some '/' ∨ (isHosted ∧ s ≠ []) then
    let path := pathText (pieces .other s)
    if !isHosted ∧ ['/', '/'].isPrefixOf path.toList then "/." ++ path else path
  else String.ofList (Text.Percent.encodeWith [] s)

/-- Reads any other address behind its scheme. -/
def readOther? (scheme : String) (s : List Char) : Option Url :=
  match s with
  | '/' :: '/' :: s => do
    let (authority, s) ← readAuthority? .other s
    some
      { scheme, credentials := authority.credentials, host := some authority.host
        port := authority.port, path := otherPath true (beforeQuery s)
        query := query? .other s, fragment := fragment? s }
  | s =>
    some
      { scheme, host := none, path := otherPath false (beforeQuery s)
        query := query? .other s, fragment := fragment? s }

/-- The address that a text gives, if it has a scheme and is well formed. -/
def parse? (text : String) : Option Url := do
  let (scheme, rest) ← splitScheme (clean text.toList)
  match SchemeKind.ofScheme scheme with
  | .web port => readWeb? scheme (.web port) rest
  | .file => readFile? scheme rest
  | .other => readOther? scheme rest

end Url

end DisclosureRelay.Http
