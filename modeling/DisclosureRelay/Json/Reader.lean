import DisclosureRelay.Json.Literal
import DisclosureRelay.Json.Numeral

/-!
# Reading JSON

A `Reader` takes a value from the front of a text. `cases` looks at how the value begins and leaves
scalars, lists and objects to three readers; `items` and `members` walk through a list and an
object; `value` reads any value, `skip` passes over one, and `parse` runs a reader on a whole text.

Brackets nest at most `depthLimit` deep in a value that is kept. A value that is passed over has no
such limit, and its numbers are not computed.
-/

namespace DisclosureRelay.Json

/-- How deep brackets may nest. -/
def depthLimit : Nat := 127

/-- The blanks between the parts of a text. -/
def isBlank (c : Char) : Bool :=
  c == ' ' || c == '\n' || c == '\t' || c == '\r'

/-- The text behind its leading blanks. -/
def skipBlank (s : List Char) : List Char :=
  s.dropWhile isBlank

namespace Reader

/-- Refuses the text. -/
def fail {α : Type} (fault : Fault) : Reader α :=
  fun _ => .error fault

/-- Runs a reader with one nesting less to spare. -/
def nested {α : Type} (depth : Nat) (inside : Nat → Reader α) : Reader α :=
  match depth with
  | 0 => fail .tooDeep
  | depth + 1 => inside depth

/-- The rest of a word, from behind its first letter. -/
def word : List Char → Reader Unit
  | [] => pure ()
  | c :: more => fun s =>
    match s with
    | [] => .error .endInValue
    | d :: rest => if c = d then word more rest else .error .expectedWord

/-- The number at the front of a text. -/
def number : Reader Number := fun s => do
  let (numeral, rest) ← Numeral.read s
  .ok (← numeral.number, rest)

/-- The value behind the blanks: a scalar is read and handed to `scalar`, a list or an object is
left to `list` or `object` from behind its bracket. -/
def cases {α : Type} (scalar : Json → Reader α) (list object : Reader α) : Reader α := fun s =>
  match skipBlank s with
  | [] => .error .endInValue
  | c :: rest =>
    match c with
    | 'n' => (do word ['u', 'l', 'l']; scalar .null) rest
    | 't' => (do word ['r', 'u', 'e']; scalar (.bool true)) rest
    | 'f' => (do word ['a', 'l', 's', 'e']; scalar (.bool false)) rest
    | '"' => (do scalar (.text (← literal))) rest
    | '[' => list rest
    | '\x7b' => object rest
    | c =>
      if c = '-' ∨ c.isDigit then (do scalar (.number (← number))) (c :: rest)
      else .error .expectedValue

/-- Whether another item of a list follows; `first` says that none was read yet. The text then
begins with the item, and otherwise with the closing bracket. -/
def moreItems (first : Bool) : Reader Bool := fun s =>
  match skipBlank s with
  | [] => .error .endInList
  | c :: rest =>
    if c = ']' then .ok (false, c :: rest)
    else if first then .ok (true, c :: rest)
    else if c = ',' then
      match skipBlank rest with
      | [] => .error .endInValue
      | d :: rest => if d = ']' then .error .trailingComma else .ok (true, d :: rest)
    else .error .expectedListEnd

/-- Whether another member of an object follows. The text then begins behind the quote of its name,
and otherwise with the closing bracket. -/
def moreMembers (first : Bool) : Reader Bool := fun s =>
  match skipBlank s with
  | [] => .error .endInObject
  | c :: rest =>
    if c = '\x7d' then .ok (false, c :: rest)
    else if first then
      if c = '"' then .ok (true, rest) else .error .nameNotText
    else if c = ',' then
      match skipBlank rest with
      | [] => .error .endInValue
      | d :: rest =>
        if d = '"' then .ok (true, rest)
        else if d = '\x7d' then .error .trailingComma
        else .error .nameNotText
    else .error .expectedObjectEnd

/-- The closing bracket of a list. -/
def listEnd : Reader Unit := fun s =>
  match skipBlank s with
  | [] => .error .endInList
  | c :: rest =>
    if c = ']' then .ok ((), rest)
    else if c = ',' ∧ (skipBlank rest).head? = some ']' then .error .trailingComma
    else .error .trailingCharacters

/-- The closing bracket of an object. -/
def objectEnd : Reader Unit := fun s =>
  match skipBlank s with
  | [] => .error .endInObject
  | c :: rest =>
    if c = '\x7d' then .ok ((), rest)
    else if c = ',' then .error .trailingComma
    else .error .trailingCharacters

/-- The colon behind a name, and the value behind it. -/
def afterColon {α : Type} (value : Reader α) : Reader α := fun s =>
  match skipBlank s with
  | [] => .error .endInObject
  | c :: rest => if c = ':' then value rest else .error .expectedColon

/-- The items of a list, in at most so many steps. -/
def itemsWithin {α : Type} (item : Reader α) : Nat → Bool → Reader (List α)
  | 0, _ => fail .endInList
  | steps + 1, first => do
    if ← moreItems first then
      let held ← item
      return held :: (← itemsWithin item steps false)
    else return []

/-- The items of a list, from behind its opening bracket and over the closing one. -/
def items {α : Type} (item : Reader α) : Reader (List α) := fun s =>
  (do
    let held ← itemsWithin item (s.length + 1) true
    listEnd
    return held) s

/-- Walks through the members of an object, in at most so many steps. -/
def membersWithin {σ : Type} (member : σ → String → Reader σ) : Nat → Bool → σ → Reader σ
  | 0, _, _ => fail .endInObject
  | steps + 1, first, held => do
    if ← moreMembers first then
      let name ← literal
      let held ← member held name
      membersWithin member steps false held
    else return held

/-- Walks through the members of an object, from behind its opening bracket and over the closing
one. `member` is given what was gathered so far and the name, and reads on from the colon. -/
def members {σ : Type} (member : σ → String → Reader σ) (start : σ) : Reader σ := fun s =>
  (do
    let held ← membersWithin member (s.length + 1) true start
    objectEnd
    return held) s

/-- Any value, of two members of one name the later one. -/
def value : Nat → Reader Json
  | 0 => cases pure (fail .tooDeep) (fail .tooDeep)
  | depth + 1 =>
    cases pure
      (do return .list (← items (value depth)))
      (do
        let held ← members
          (fun held name => do return Members.insert name (← afterColon (value depth)) held) []
        return .object held)

/-- The kind of a scalar, for a message. -/
def found : Json → Found
  | .null => .null
  | .bool value => .bool value
  | .number value => .number value
  | .text value => .text value
  | .list _ => .list
  | .object _ => .object

/-- Reads a value of which `accept` takes the scalars; lists and objects are of the wrong type. -/
def scalar {α : Type} (expected : String) (accept : Json → Option (Except Fault α)) : Reader α :=
  cases
    (fun value =>
      match accept value with
      | some (.ok held) => pure held
      | some (.error fault) => fail fault
      | none => fail (.wrongType (found value) expected))
    (fail (.wrongType .list expected))
    (fail (.wrongType .object expected))

/-- A text. -/
def text : Reader String :=
  scalar "a string" fun
    | .text value => some (.ok value)
    | _ => none

/-- The whole numbers without sign among the scalars. -/
def acceptNatural : Json → Option (Except Fault Nat)
  | .number (.integer value) =>
    if value < 0 then some (.error (.wrongValue (.number (.integer value)) "u64"))
    else some (.ok value.toNat)
  | _ => none

/-- A whole number of 64 bits without sign. -/
def natural : Reader Nat :=
  scalar "u64" acceptNatural

end Reader

/-- What a value that is passed over is open in. -/
inductive Bracket where
  | list
  | object
  deriving DecidableEq

/-- Where passing over a value has come to: before a value, behind an opening bracket, or behind a
value or a closing bracket. -/
inductive Place where
  | before
  | opened
  | behind
  deriving DecidableEq

namespace Reader

/-- The fault of a text that ends inside a bracket. -/
def Bracket.atEnd : Bracket → Fault
  | .list => .endInList
  | .object => .endInObject

/-- The fault of a text where neither a comma nor the closing bracket follows a value. -/
def Bracket.unclosed : Bracket → Fault
  | .list => .expectedListEnd
  | .object => .expectedObjectEnd

/-- The character that closes a bracket. -/
def Bracket.closing : Bracket → Char
  | .list => ']'
  | .object => '\x7d'

/-- A number that is passed over. -/
def skipNumber : Reader Unit := fun s =>
  match Numeral.read s with
  | .ok (_, rest) => .ok ((), rest)
  | .error _ => .error .invalidNumber

/-- Passes to the next value inside a bracket: over the name and the colon in an object. -/
def skipName : Bracket → Reader Unit
  | .list => pure ()
  | .object => fun s =>
    match skipBlank s with
    | [] => .error .endInObject
    | c :: rest =>
      if c = '"' then (do skipLiteral; afterColon (pure ())) rest else .error .nameNotText

/-- Passes over a scalar, or an opening bracket, which is then returned. -/
def skipHead : Reader (Option Bracket) := fun s =>
  match skipBlank s with
  | [] => .error .endInValue
  | c :: rest =>
    match c with
    | 'n' => (do word ['u', 'l', 'l']; return none) rest
    | 't' => (do word ['r', 'u', 'e']; return none) rest
    | 'f' => (do word ['a', 'l', 's', 'e']; return none) rest
    | '"' => (do skipLiteral; return none) rest
    | '[' => .ok (some .list, rest)
    | '\x7b' => .ok (some .object, rest)
    | c =>
      if c = '-' ∨ c.isDigit then (do skipNumber; return none) (c :: rest)
      else .error .expectedValue

/-- Passes over a value from a place inside the brackets that are open, the innermost first, in at
most so many steps. -/
def skipWithin : Nat → Place → List Bracket → Reader Unit
  | 0, _, _ => fail .endInValue
  | steps + 1, .before, outer => do
    match ← skipHead with
    | some bracket => skipWithin steps .opened (bracket :: outer)
    | none => skipWithin steps .behind outer
  | _, _, [] => pure ()
  | steps + 1, place, bracket :: outer => fun s =>
    match skipBlank s with
    | [] => .error (Bracket.atEnd bracket)
    | c :: rest =>
      if c = Bracket.closing bracket then skipWithin steps .behind outer rest
      else if place = .opened then
        (do skipName bracket; skipWithin steps .before (bracket :: outer)) (c :: rest)
      else if c = ',' then
        (do skipName bracket; skipWithin steps .before (bracket :: outer)) rest
      else .error (Bracket.unclosed bracket)

/-- Passes over a value of any depth. Two steps for every character are enough. -/
def skip : Reader Unit := fun s =>
  skipWithin (2 * s.length + 2) .before [] s

end Reader

/-- Reads a whole text: behind the value only blanks may follow. -/
def parse {α : Type} (reader : Reader α) (text : String) : Except Fault α :=
  match reader text.toList with
  | .error fault => .error fault
  | .ok (value, rest) =>
    if (skipBlank rest).isEmpty then .ok value else .error .trailingCharacters

/-- The value of a whole text. -/
def ofText (text : String) : Except Fault Json :=
  parse (Reader.value depthLimit) text

end DisclosureRelay.Json
