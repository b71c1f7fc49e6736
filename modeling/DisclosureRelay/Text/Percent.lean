import DisclosureRelay.Text.Hex
import DisclosureRelay.Text.Utf8

/-!
# Bytes behind a percent sign

A byte that must not stand for itself is given by two hexadecimal digits behind `%`. `encodeByte`
writes one, `encodeWith` a text of which some characters must not stand for themselves, and `decode`
reads the bytes of a text, in which any other `%` stands for itself.
-/

namespace DisclosureRelay.Text.Percent

/-- A byte by its digits. -/
def encodeByte (b : UInt8) : List Char :=
  ['%', Hex.upper (b.toNat / 16), Hex.upper (b.toNat % 16)]

/-- A character by the digits of its bytes. -/
def encodeChar (c : Char) : List Char :=
  (String.utf8EncodeChar c).flatMap encodeByte

/-- A text in which the characters of a set, controls, and all characters that are not ASCII are given
by their bytes. -/
def encodeWith (reserved : List Char) (s : List Char) : List Char :=
  s.flatMap fun c =>
    if c.toNat ≤ 0x1f ∨ c.toNat ≥ 0x7f ∨ reserved.contains c then encodeChar c else [c]

/-- The bytes of a text. -/
def decode : List Char → List UInt8
  | [] => []
  | '%' :: a :: b :: rest =>
    match Hex.digit? a, Hex.digit? b with
    | some high, some low => UInt8.ofNat (16 * high + low) :: decode rest
    | _, _ => 0x25 :: decode (a :: b :: rest)
  | c :: rest => String.utf8EncodeChar c ++ decode rest

end DisclosureRelay.Text.Percent
