/-!
# Hexadecimal digits

Reading and writing digits of base sixteen. `digit?` accepts both cases, `lower` and `upper` write
one digit, and `bytes?` reads a text of digit pairs.
-/

namespace DisclosureRelay.Text.Hex

/-- The value of a hexadecimal digit of either case. -/
def digit? (c : Char) : Option Nat :=
  if '0' ≤ c ∧ c ≤ '9' then some (c.toNat - '0'.toNat)
  else if 'a' ≤ c ∧ c ≤ 'f' then some (c.toNat - 'a'.toNat + 10)
  else if 'A' ≤ c ∧ c ≤ 'F' then some (c.toNat - 'A'.toNat + 10)
  else none

/-- The digit of a value below sixteen, in lower case. -/
def lower (value : Nat) : Char :=
  Nat.digitChar (value % 16)

/-- The digit of a value below sixteen, in upper case. -/
def upper (value : Nat) : Char :=
  (lower value).toUpper

/-- The value of a row of digits, the most significant one first. -/
def value? (digits : List Char) : Option Nat :=
  digits.foldl (fun held c => do some (16 * (← held) + (← digit? c))) (some 0)

/-- The bytes that pairs of digits stand for. -/
def bytes? : List Char → Option (List UInt8)
  | [] => some []
  | [_] => none
  | a :: b :: rest => do
    let high ← digit? a
    let low ← digit? b
    some (UInt8.ofNat (16 * high + low) :: (← bytes? rest))

end DisclosureRelay.Text.Hex
