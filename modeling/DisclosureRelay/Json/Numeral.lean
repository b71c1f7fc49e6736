import DisclosureRelay.Json.Fault

/-!
# Numerals

How numbers are read. `Numeral.read` takes a numeral from the front of a text by the grammar of
JSON, and `Numeral.number` gives its value: a numeral without fraction and exponent that fits 64
bits is kept exactly, any other one becomes a real. A real is computed from the leading digits that
fit 64 bits and a power of ten, by one rounded multiplication or division (two beyond `10^-308`), so
the result is not always the nearest real; one that overflows is refused.
-/

namespace DisclosureRelay.Json

/-- A numeral by its parts: the digits before the point, those after it, and the signed exponent. -/
structure Numeral where
  negative : Bool
  whole : List Char
  fraction : Option (List Char)
  exponent : Option (Bool × List Char)
  deriving DecidableEq

namespace Numeral

/-- The fault of a numeral that breaks off where a digit has to stand. -/
def noDigit (rest : List Char) : Fault :=
  if rest.isEmpty then .endInValue else .invalidNumber

/-- The digits at the front of a text and the rest; there has to be one at least. -/
def readDigits (s : List Char) : Except Fault (List Char × List Char) :=
  let digits := s.takeWhile Char.isDigit
  let rest := s.dropWhile Char.isDigit
  if digits.isEmpty then .error (noDigit rest) else .ok (digits, rest)

/-- The digits before the point: a leading zero stands alone. -/
def readWhole (s : List Char) : Except Fault (List Char × List Char) := do
  let (digits, rest) ← readDigits s
  if digits.head? = some '0' ∧ digits.length ≠ 1 then .error .invalidNumber
  else .ok (digits, rest)

/-- The point and the digits after it, if there is a point. -/
def readFraction : List Char → Except Fault (Option (List Char) × List Char)
  | '.' :: s => do
    let (digits, rest) ← readDigits s
    .ok (some digits, rest)
  | s => .ok (none, s)

/-- The sign of an exponent, positive if there is none. -/
def readSign : List Char → Bool × List Char
  | '+' :: s => (false, s)
  | '-' :: s => (true, s)
  | s => (false, s)

/-- The exponent, if there is one. -/
def readExponent : List Char → Except Fault (Option (Bool × List Char) × List Char)
  | [] => .ok (none, [])
  | c :: s =>
    if c = 'e' ∨ c = 'E' then do
      let (negative, s) := readSign s
      let (digits, rest) ← readDigits s
      .ok (some (negative, digits), rest)
    else .ok (none, c :: s)

/-- The sign of a numeral. -/
def readMinus : List Char → Bool × List Char
  | '-' :: s => (true, s)
  | s => (false, s)

/-- Takes a numeral from the front of a text. -/
def read (s : List Char) : Except Fault (Numeral × List Char) := do
  let (negative, s) := readMinus s
  let (whole, s) ← readWhole s
  let (fraction, s) ← readFraction s
  let (exponent, s) ← readExponent s
  .ok (⟨negative, whole, fraction, exponent⟩, s)

/-- Appends digits to a value as long as it stays below `2^64`; the digits left over are returned. -/
def absorb (value : Nat) : List Char → Nat × List Char
  | [] => (value, [])
  | c :: rest =>
    let next := 10 * value + (c.toNat - '0'.toNat)
    if next < Nat.pow 2 64 then absorb next rest else (value, c :: rest)

/-- The real `10^power`, for a power up to 308. -/
def powerOfTen (power : Nat) : Float :=
  Float.ofScientific 1 false power

/-- Scales a value by a power of ten; `none` stands for an overflow. -/
def scale (value : Float) (power : Int) : Option Float :=
  if 0 ≤ power then
    if power ≤ 308 then
      let scaled := value * powerOfTen power.toNat
      if scaled.isInf then none else some scaled
    else if value == 0 then some value else none
  else if -308 ≤ power then some (value / powerOfTen (-power).toNat)
  else if value == 0 then some value
  else scale (value / powerOfTen 308) (power + 308)
termination_by (-power).toNat
decreasing_by omega

/-- The exponent as a number. -/
def power (n : Numeral) : Int :=
  match n.exponent with
  | none => 0
  | some (true, digits) => -(Nat.ofDigitChars 10 digits 0 : Int)
  | some (false, digits) => (Nat.ofDigitChars 10 digits 0 : Int)

/-- The value of a numeral as a real. -/
def real (n : Numeral) : Except Fault Number :=
  let (leading, dropped) := absorb 0 n.whole
  let fraction := n.fraction.getD []
  let (significand, ignored) := absorb leading fraction
  let shift : Int := dropped.length - (fraction.length - ignored.length : Nat)
  match scale (UInt64.ofNat significand).toFloat (n.power + shift) with
  | none => .error .numberOutOfRange
  | some value => .ok (.real (if n.negative then -value else value).toBits)

/-- The value of a numeral. -/
def number (n : Numeral) : Except Fault Number :=
  let value := Nat.ofDigitChars 10 n.whole 0
  if n.fraction.isSome ∨ n.exponent.isSome then n.real
  else if n.negative then
    if 0 < value ∧ value ≤ Nat.pow 2 63 then .ok (.integer (-value)) else n.real
  else if value < Nat.pow 2 64 then .ok (.integer value)
  else n.real

end Numeral

end DisclosureRelay.Json
