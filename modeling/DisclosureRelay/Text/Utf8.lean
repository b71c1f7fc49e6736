/-!
# UTF-8

Reading characters from bytes, one byte at a time. `decode` never fails: the longest beginning of a
character that breaks off, and any byte that begins none, stands for one replacement character.
`encode` gives the bytes of a text.
-/

namespace DisclosureRelay.Text.Utf8

/-- The character that stands for bytes that are no character. -/
def replacement : Char := '\ufffd'

/-- A character of which some bytes were read: how many are missing, the bounds of the next one, and
the code point so far. -/
structure Partial where
  missing : Nat
  low : UInt8
  high : UInt8
  code : Nat

/-- What a first byte begins: a character of its own, a longer one, or nothing. -/
inductive Start where
  | whole (c : Char)
  | begun (part : Partial)
  | none

/-- What a byte begins. -/
def start (b : UInt8) : Start :=
  if b < 0x80 then .whole (Char.ofNat b.toNat)
  else if 0xC2 ≤ b ∧ b ≤ 0xDF then .begun ⟨1, 0x80, 0xBF, b.toNat % 0x20⟩
  else if b = 0xE0 then .begun ⟨2, 0xA0, 0xBF, b.toNat % 0x10⟩
  else if b = 0xED then .begun ⟨2, 0x80, 0x9F, b.toNat % 0x10⟩
  else if 0xE1 ≤ b ∧ b ≤ 0xEF then .begun ⟨2, 0x80, 0xBF, b.toNat % 0x10⟩
  else if b = 0xF0 then .begun ⟨3, 0x90, 0xBF, b.toNat % 0x08⟩
  else if 0xF1 ≤ b ∧ b ≤ 0xF3 then .begun ⟨3, 0x80, 0xBF, b.toNat % 0x08⟩
  else if b = 0xF4 then .begun ⟨3, 0x80, 0x8F, b.toNat % 0x08⟩
  else .none

/-- The characters of bytes, behind a character that was begun if there is one. -/
def decodeFrom : Option Partial → List UInt8 → List Char
  | none, [] => []
  | some _, [] => [replacement]
  | none, b :: rest =>
    match start b with
    | .whole c => c :: decodeFrom none rest
    | .begun part => decodeFrom (some part) rest
    | .none => replacement :: decodeFrom none rest
  | some part, b :: rest =>
    if part.low ≤ b ∧ b ≤ part.high then
      let code := 0x40 * part.code + b.toNat % 0x40
      if part.missing ≤ 1 then Char.ofNat code :: decodeFrom none rest
      else decodeFrom (some ⟨part.missing - 1, 0x80, 0xBF, code⟩) rest
    else
      match start b with
      | .whole c => replacement :: c :: decodeFrom none rest
      | .begun next => replacement :: decodeFrom (some next) rest
      | .none => replacement :: replacement :: decodeFrom none rest

/-- The characters of bytes. -/
def decode (bytes : List UInt8) : List Char :=
  decodeFrom none bytes

/-- The bytes of characters. -/
def encode (chars : List Char) : List UInt8 :=
  chars.flatMap String.utf8EncodeChar

end DisclosureRelay.Text.Utf8
