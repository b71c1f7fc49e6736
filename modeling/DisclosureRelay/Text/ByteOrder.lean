import DisclosureRelay.Text.Utf8

/-!
# Byte order marks

A `Mark` at the front of bytes says how those behind it are read: as UTF-8, or as units of two bytes
in one of two orders. `decodeUnits` reads such units: it never fails, and half of a pair without the
other half, or a byte that is left over, stands for one replacement character. `encodeUnits` gives
the units of a text. Bytes without a mark are read by whatever reader `bodyText` is given.
-/

namespace DisclosureRelay.Text

/-- The order of the two bytes of a unit. -/
inductive ByteOrder where
  | bigEndian
  | littleEndian
  deriving DecidableEq

/-- The unit of two bytes. -/
def ByteOrder.unit : ByteOrder → UInt8 → UInt8 → Nat
  | .bigEndian, a, b => 0x100 * a.toNat + b.toNat
  | .littleEndian, a, b => 0x100 * b.toNat + a.toNat

/-- The two bytes of a unit. -/
def ByteOrder.bytes : ByteOrder → Nat → List UInt8
  | .bigEndian, unit => [.ofNat (unit / 0x100), .ofNat (unit % 0x100)]
  | .littleEndian, unit => [.ofNat (unit % 0x100), .ofNat (unit / 0x100)]

/-- The characters of units. -/
def ByteOrder.decodeUnits (order : ByteOrder) : List UInt8 → List Char
  | [] => []
  | [_] => [Utf8.replacement]
  | a :: b :: rest =>
    let unit := order.unit a b
    if unit < 0xD800 ∨ 0xDFFF < unit then Char.ofNat unit :: decodeUnits order rest
    else if 0xDC00 ≤ unit then Utf8.replacement :: decodeUnits order rest
    else
      match rest with
      | [] | [_] => [Utf8.replacement]
      | c :: d :: more =>
        let next := order.unit c d
        if 0xDC00 ≤ next ∧ next ≤ 0xDFFF then
          Char.ofNat (0x10000 + 0x400 * (unit - 0xD800) + (next - 0xDC00)) :: decodeUnits order more
        else Utf8.replacement :: decodeUnits order (c :: d :: more)

/-- The units of a character: one, or a pair. -/
def unitsOf (c : Char) : List Nat :=
  if c.toNat < 0x10000 then [c.toNat]
  else [0xD800 + (c.toNat - 0x10000) / 0x400, 0xDC00 + (c.toNat - 0x10000) % 0x400]

/-- The bytes of the units of characters. -/
def ByteOrder.encodeUnits (order : ByteOrder) (s : List Char) : List UInt8 :=
  s.flatMap fun c => (unitsOf c).flatMap order.bytes

/-- What a mark at the front of bytes says about those behind it. -/
inductive Mark where
  | utf8
  | units (order : ByteOrder)

namespace Mark

/-- The bytes of a mark. -/
def bytes : Mark → List UInt8
  | .utf8 => [0xEF, 0xBB, 0xBF]
  | .units .bigEndian => [0xFE, 0xFF]
  | .units .littleEndian => [0xFF, 0xFE]

/-- The characters of the bytes behind a mark. -/
def decode : Mark → List UInt8 → List Char
  | .utf8 => Utf8.decode
  | .units order => order.decodeUnits

/-- The bytes behind a mark that hold characters. -/
def encode : Mark → List Char → List UInt8
  | .utf8 => Utf8.encode
  | .units order => order.encodeUnits

/-- The mark at the front of bytes, if there is one, and what follows it. -/
def split? : List UInt8 → Option (Mark × List UInt8)
  | 0xEF :: 0xBB :: 0xBF :: rest => some (.utf8, rest)
  | 0xFE :: 0xFF :: rest => some (.units .bigEndian, rest)
  | 0xFF :: 0xFE :: rest => some (.units .littleEndian, rest)
  | _ => none

end Mark

/-- The text of bytes without the mark at their front; if there is none, they are read as `plain`
says. -/
def bodyText (plain : List UInt8 → List Char) (bytes : List UInt8) : String :=
  match Mark.split? bytes with
  | some (mark, rest) => String.ofList (mark.decode rest)
  | none => String.ofList (plain bytes)

end DisclosureRelay.Text
