/-!
# Shortest decimals of binary64 reals

A positive binary64 real is `mantissa * 2^power`. The reals that round to it form an interval whose
ends count exactly when the mantissa is even. `shortest` finds the fewest decimal digits of a point
of that interval, and of those points the nearest to the real; `Layout` says how such digits are
written, and `print` writes a real given by its bits.
-/

namespace DisclosureRelay.Decimal

/-- A positive binary64 real, `mantissa * 2^power`; `tight` says that the neighbour below is only
half as far away as the one above, as it is at a power of two. -/
structure Binary where
  mantissa : Nat
  power : Int
  tight : Bool
  deriving DecidableEq

/-- The magnitude a finite binary64 has by its bits; `none` is zero. -/
def Binary.ofBits (bits : UInt64) : Option Binary :=
  let fraction : Nat := bits.toNat % Nat.pow 2 52
  let exponent : Nat := bits.toNat / Nat.pow 2 52 % Nat.pow 2 11
  if exponent = 0 then
    if fraction = 0 then none else some ⟨fraction, -1074, false⟩
  else some ⟨Nat.pow 2 52 + fraction, (exponent : Int) - 1075, fraction == 0 && exponent != 1⟩

/-- The real, and the two ends of the interval of reals that round to it, as numerators over one
denominator. -/
structure Interval where
  low : Nat
  value : Nat
  high : Nat
  denominator : Nat
  closed : Bool

/-- The interval of a real, in quarters of its last binary place. -/
def Binary.interval (x : Binary) : Interval :=
  let power := x.power - 2
  let scale := Nat.pow 2 power.toNat
  { low := (4 * x.mantissa - if x.tight then 1 else 2) * scale
    value := 4 * x.mantissa * scale
    high := (4 * x.mantissa + 2) * scale
    denominator := Nat.pow 2 (-power).toNat
    closed := x.mantissa % 2 = 0 }

/-- Whether the decimal `digits * 10^power` rounds to the real of the interval. -/
def Interval.holds (i : Interval) (digits : Nat) (power : Int) : Bool :=
  let point := digits * Nat.pow 10 power.toNat * i.denominator
  let low := i.low * Nat.pow 10 (-power).toNat
  let high := i.high * Nat.pow 10 (-power).toNat
  if i.closed then low ≤ point && point ≤ high else low < point && point < high

/-- The power of ten of the leading digit of a positive fraction. -/
def leadingPower (numerator denominator : Nat) : Int :=
  if denominator ≤ numerator then
    ((Nat.toDigits 10 (numerator / denominator)).length : Int) - 1
  else
    -((Nat.toDigits 10 ((denominator + numerator - 1) / numerator - 1)).length : Int)

/-- A decimal `digits * 10^power`. -/
structure Scaled where
  digits : Nat
  power : Int
  deriving DecidableEq

/-- The neighbours of the real on the grid of multiples of `10^power`, the nearer one first, and of
two that are equally near the one with the even digit. -/
def Interval.neighbours (i : Interval) (power : Int) : List Nat :=
  let numerator := i.value * Nat.pow 10 (-power).toNat
  let denominator := i.denominator * Nat.pow 10 power.toNat
  let below := numerator / denominator
  let rest := numerator % denominator
  let belowFirst := 2 * rest < denominator || (2 * rest == denominator && below % 2 == 0)
  if belowFirst then [below, below + 1] else [below + 1, below]

/-- The decimal on one grid that rounds to the real, if there is one. -/
def Interval.onGrid (i : Interval) (power : Int) : Option Scaled :=
  ((i.neighbours power).find? (i.holds · power)).map (⟨·, power⟩)

/-- Drops the zeros at the end of the digits, at most `limit` of them. -/
def Scaled.trim : (limit : Nat) → Scaled → Scaled
  | 0, d => d
  | limit + 1, d =>
    if d.digits ≠ 0 ∧ d.digits % 10 = 0 then Scaled.trim limit ⟨d.digits / 10, d.power + 1⟩ else d

/-- The shortest decimal that rounds to a real: the grids of one, two, up to seventeen digits are
tried in turn, and the last of them always holds a point of the interval. -/
def shortest (x : Binary) : Scaled :=
  let i := x.interval
  let leading := leadingPower i.value i.denominator
  let found := (List.range 17).findSome? fun (more : Nat) => i.onGrid (leading - more)
  (found.getD ⟨0, 0⟩).trim 17

/-- How a decimal is written: from which to which power of ten of its leading digit the digits
stand in their places, and, outside of that, with how many digits at least the exponent is given
and whether a positive one has its sign. -/
structure Layout where
  leastPlain : Int
  greatestPlain : Int
  exponentDigits : Nat
  plusSign : Bool

/-- The digits of a number, with zeros in front up to a width. -/
def padded (width value : Nat) : List Char :=
  let digits := Nat.toDigits 10 value
  List.replicate (width - digits.length) '0' ++ digits

/-- The exponent part. -/
def Layout.exponent (layout : Layout) (exponent : Int) : List Char :=
  let sign := if exponent < 0 then ['-'] else if layout.plusSign then ['+'] else []
  'e' :: sign ++ padded layout.exponentDigits exponent.natAbs

/-- Writes a positive decimal; in its places it always has a point with a digit on either side. -/
def Layout.write (layout : Layout) (d : Scaled) : List Char :=
  let digits := Nat.toDigits 10 d.digits
  let leading := d.power + digits.length - 1
  if layout.leastPlain ≤ leading ∧ leading ≤ layout.greatestPlain then
    if 0 ≤ d.power then digits ++ List.replicate d.power.toNat '0' ++ ['.', '0']
    else if 0 ≤ leading then
      digits.take (leading.toNat + 1) ++ '.' :: digits.drop (leading.toNat + 1)
    else '0' :: '.' :: List.replicate (-leading - 1).toNat '0' ++ digits
  else
    match digits with
    | [] => []
    | [d] => d :: layout.exponent leading
    | d :: ds => d :: '.' :: ds ++ layout.exponent leading

/-- Writes a finite binary64 given by its bits. -/
def Layout.print (layout : Layout) (bits : UInt64) : List Char :=
  let sign := if bits.toNat < Nat.pow 2 63 then [] else ['-']
  match Binary.ofBits bits with
  | none => sign ++ ['0', '.', '0']
  | some x => sign ++ layout.write (shortest x)

end DisclosureRelay.Decimal
