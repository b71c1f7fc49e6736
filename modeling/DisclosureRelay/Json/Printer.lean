import DisclosureRelay.Decimal.Shortest
import DisclosureRelay.Json.Basic
import DisclosureRelay.Text.Hex

/-!
# Printing JSON

The compact form: no blanks, members in the order in which an object holds them, texts escaped only
where they must be. `Json.print` is the text of a value and `Json.chars` its characters, and
`reals` says how reals are written.
-/

namespace DisclosureRelay

/-- Reals stand in their places from `10^-5` to below `10^16`; elsewhere they have an exponent, always
with its sign and without zeros in front. -/
def Number.reals : Decimal.Layout :=
  { leastPlain := -5, greatestPlain := 15, exponentDigits := 1, plusSign := true }

/-- The characters of a whole number. -/
def Number.integerChars (value : Int) : List Char :=
  if value < 0 then '-' :: Nat.toDigits 10 value.natAbs else Nat.toDigits 10 value.natAbs

/-- The characters of a number. -/
def Number.chars : Number → List Char
  | .integer value => integerChars value
  | .real bits => reals.print bits

/-- The text of a number. -/
def Number.print (number : Number) : String :=
  String.ofList number.chars

namespace Json

/-- One character of a text, escaped if it is a quote, a backslash or a control. -/
def escapeChar (c : Char) : List Char :=
  match c with
  | '"' => ['\\', '"']
  | '\\' => ['\\', '\\']
  | '\x08' => ['\\', 'b']
  | '\x0c' => ['\\', 'f']
  | '\n' => ['\\', 'n']
  | '\r' => ['\\', 'r']
  | '\t' => ['\\', 't']
  | _ =>
    if c.toNat < 32 then
      ['\\', 'u', '0', '0', Text.Hex.lower (c.toNat / 16), Text.Hex.lower (c.toNat % 16)]
    else [c]

/-- The characters of a text as a JSON literal. -/
def literalChars (text : String) : List Char :=
  '"' :: text.toList.flatMap escapeChar ++ ['"']

mutual

/-- The characters of a value. -/
def chars : Json → List Char
  | .null => ['n', 'u', 'l', 'l']
  | .bool true => ['t', 'r', 'u', 'e']
  | .bool false => ['f', 'a', 'l', 's', 'e']
  | .number value => value.chars
  | .text value => literalChars value
  | .list items => '[' :: itemsChars items ++ [']']
  | .object members => '\x7b' :: membersChars members ++ ['\x7d']

/-- The characters of the items of a list. -/
def itemsChars : List Json → List Char
  | [] => []
  | [item] => item.chars
  | item :: next :: rest => item.chars ++ ',' :: itemsChars (next :: rest)

/-- The characters of the members of an object. -/
def membersChars : List (String × Json) → List Char
  | [] => []
  | [(name, value)] => literalChars name ++ ':' :: value.chars
  | (name, value) :: next :: rest =>
    literalChars name ++ ':' :: value.chars ++ ',' :: membersChars (next :: rest)

end

/-- The compact text of a value. -/
def print (value : Json) : String :=
  String.ofList value.chars

end Json

end DisclosureRelay
