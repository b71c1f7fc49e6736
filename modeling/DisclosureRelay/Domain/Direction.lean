import DisclosureRelay.Text.Marks

/-!
# The direction of labels

A name with letters that are written from right to left can be misread, unless each of its labels
goes in one direction. `Direction` is how a character takes part in that (Unicode 17.0), and
`goesOneWay` the rule for a label.
-/

namespace DisclosureRelay.Domain

open Text (Table.within Table.ranges)

/-- How a character takes part in the direction of a text. -/
inductive Direction where
  | left
  | right
  | arabicLetter
  | arabicNumber
  | europeanNumber
  | europeanSeparator
  | europeanTerminator
  | commonSeparator
  | boundary
  | mark
  | neutral
  deriving DecidableEq

namespace Direction

/-- Letters from right to left other than Arabic ones. -/
def rightRanges : List (Nat × Nat) := Table.ranges "
  5be 5c0 5c3 5c6 5d0-5f4 7c0-7ea 7f4-7f5 7fa 7fe-815 81a 824 828 830-858 85e 10800-1091b
  10920-10a00 10a10-10a35 10a40-10ae4 10aeb-10b35 10b40-10cff 10d40-10d4f 10d6f-10d8f 10e80-10ea9
  10ead-10eb1 10f00-10f27 10f70-10f81 10f86-10ff6 1e800-1e8cf 1e922-1e943 1e94b-1e95f"

/-- Arabic letters. -/
def arabicLetterRanges : List (Nat × Nat) := Table.ranges "
  608 60b 60d 61b-64a 66d-66f 671-6d5 6e5-6e6 6ee-6ef 6fa-710 712-72f 74d-7a5 7b1 860-88f 8a0-8c9
  fbb2-fbc2 fe73 10d00-10d23 10ec2-10ec7 10f30-10f45 10f51-10f59 1ec71-1ed3d"

/-- Arabic digits and their signs. -/
def arabicNumberRanges : List (Nat × Nat) := Table.ranges "
  660-669 66b-66c 10d30-10d39 10e60-10e7e"

/-- European digits. -/
def europeanNumberRanges : List (Nat × Nat) := Table.ranges "
  30-39 6f0-6f9 102e1-102fb"

/-- Signs of European numbers. -/
def europeanSeparatorRanges : List (Nat × Nat) := Table.ranges "
  2b 2d 2212"

/-- Units of European numbers. -/
def europeanTerminatorRanges : List (Nat × Nat) := Table.ranges "
  23-25 a2-a5 b0-b1 58f 609-60a 66a 9f2-9f3 9fb af1 bf9 e3f 17db 2030-2032 20a0-20c1 212e 2213
  a838-a839 11fdd-11fe0 1e2ff"

/-- Separators in numbers. -/
def commonSeparatorRanges : List (Nat × Nat) := Table.ranges "
  2c 2e-2f 3a 60c 2044"

/-- Characters that are ignored. -/
def boundaryRanges : List (Nat × Nat) := Table.ranges "
  0-8 e-1b 7f 200c-200d"

/-- Signs and symbols. -/
def neutralRanges : List (Nat × Nat) := Table.ranges "
  21-22 26-2a 3b-60 7b-7e a1 a6-ae b6-d7 f7 2b9-2ba 2c2-2cf 2d2-2ed 2ef-2ff 375 3f6 58a-58e 606-607
  60e-60f 6de 6e9 7f6-7f9 bf3-bf8 bfa c78-c7e f3a-f3d 1390-1399 1400 169b-169c 17f0-180a 1940-1945
  19de-19ff 2010-2027 2035-2043 2045-205e 2104-2129 213a-214d 218a-2211 2214-2335 237b-2394
  2396-26ab 26ad-27ff 2900-2bff 2ce5-2cea 2cf9-2cff 2e00-3004 3008-3020 3030 3037 303d-303f 30a0
  30fb 31c0-31e5 4dc0-4dff a490-a4c6 a60d-a60f a673 a67e-a67f a700-a721 a788 a828-a82b a874-a877
  ab6a-ab6b fbc3-fdff fe45-fe46 10101 10140-1018c 10190-101a0 1091f 10b39-10b3f 10d6e 10ed0-10ed8
  11052-11065 11660-1166c 11fd5-11fdc 11fe1-11ff1 16fe2 1cc00-1cef0 1d1e9-1d241 1d245 1d300-1d356
  1eef0-1f12f 1f16d-1f16f 1f1ad 1f260-1fbfa"

/-- Marks without a place of their own that go from left to right like letters. -/
def leftMarks : List Nat := [0xcbf, 0xcc6, 0x11a07, 0x11a08, 0x11c3f]

/-- The direction of a character. -/
def ofChar (c : Char) : Direction :=
  let among (ranges : List (Nat × Nat)) : Bool := Table.within ranges c.toNat
  if leftMarks.contains c.toNat then .left
  else if Text.Marks.isNonspacing c then .mark
  else if among rightRanges then .right
  else if among arabicLetterRanges then .arabicLetter
  else if among arabicNumberRanges then .arabicNumber
  else if among europeanNumberRanges then .europeanNumber
  else if among europeanSeparatorRanges then .europeanSeparator
  else if among europeanTerminatorRanges then .europeanTerminator
  else if among commonSeparatorRanges then .commonSeparator
  else if among boundaryRanges then .boundary
  else if among neutralRanges then .neutral
  else .left

/-- Whether a name with the character has to keep the rule for directions. -/
def isRightward : Direction → Bool
  | .right | .arabicLetter | .arabicNumber => true
  | _ => false

/-- Whether a label of either direction may hold the character. -/
def isCommon : Direction → Bool
  | .europeanNumber | .europeanSeparator | .europeanTerminator | .commonSeparator | .boundary
  | .mark | .neutral => true
  | _ => false

end Direction

open Direction in
/-- Whether a label goes in one direction: that of its first character, which is a letter. Its last
one, marks apart, is a letter or a digit, and a label from right to left has digits of one kind. -/
def goesOneWay (label : List Char) : Bool :=
  let directions := label.map ofChar
  let last := (directions.reverse.dropWhile (· == .mark)).head?
  let lastIn (allowed : List Direction) : Bool := last.any allowed.contains
  match directions.head? with
  | none => true
  | some .left =>
    directions.all (fun d => d == .left || d.isCommon) && lastIn [.left, .europeanNumber]
  | some .right | some .arabicLetter =>
    directions.all (fun d => d.isRightward || d.isCommon)
      && lastIn [.right, .arabicLetter, .europeanNumber, .arabicNumber]
      && !(directions.contains .europeanNumber && directions.contains .arabicNumber)
  | some _ => false

end DisclosureRelay.Domain
