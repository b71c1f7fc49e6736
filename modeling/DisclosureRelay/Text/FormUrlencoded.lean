import DisclosureRelay.Text.Percent

/-!
# Form bodies

The `application/x-www-form-urlencoded` form of a list of names and values. `encode` writes it:
letters, digits and `*-._` stand for themselves, a space becomes `+`, and any other byte is given
by two hexadecimal digits behind `%`. `decode` reads such a body: the pieces between `&` are pairs,
parted at their first `=`, and pieces without any character are passed over.
-/

namespace DisclosureRelay.Text.FormUrlencoded

/-- Whether a byte stands for itself. -/
def isPlainByte (b : UInt8) : Bool :=
  let c := Char.ofNat b.toNat
  b < 0x80 && (c.isAlphanum || c == '*' || c == '-' || c == '.' || c == '_')

/-- What stands for a byte. -/
def encodeByte (b : UInt8) : List Char :=
  if isPlainByte b then [Char.ofNat b.toNat]
  else if b = 0x20 then ['+']
  else Percent.encodeByte b

/-- What stands for a name or a value. -/
def encodePart (text : String) : List Char :=
  (Utf8.encode text.toList).flatMap encodeByte

/-- A name and its value. -/
def encodePair (pair : String × String) : List Char :=
  encodePart pair.1 ++ '=' :: encodePart pair.2

/-- The characters of a body. -/
def encodeChars : List (String × String) → List Char
  | [] => []
  | [pair] => encodePair pair
  | pair :: next :: rest => encodePair pair ++ '&' :: encodeChars (next :: rest)

/-- The body of a list of names and values. -/
def encode (pairs : List (String × String)) : String :=
  String.ofList (encodeChars pairs)

/-- A name or a value as it was before: `+` is a space. -/
def decodePart (s : List Char) : String :=
  String.ofList (Utf8.decode (Percent.decode (s.map fun c => if c = '+' then ' ' else c)))

/-- The name and the value of a piece. -/
def decodePair (piece : List Char) : String × String :=
  (decodePart (piece.takeWhile (· ≠ '=')), decodePart ((piece.dropWhile (· ≠ '=')).drop 1))

/-- Reads a body. -/
def decode (body : String) : List (String × String) :=
  ((body.toList.splitOn '&').filter (· ≠ [])).map decodePair

end DisclosureRelay.Text.FormUrlencoded
