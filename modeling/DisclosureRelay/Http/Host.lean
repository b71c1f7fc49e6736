import DisclosureRelay.Domain.Ascii
import DisclosureRelay.Text.Percent

/-!
# Hosts of addresses

The host of an address in its canonical form. `host?` reads a domain name, which is given in ASCII,
an IPv4 address, which is written in four decimal parts, or an IPv6 address in brackets, in which
the longest row of zero pieces is left out. `opaqueHost?` reads the host of an address of which
nothing else is known: its name stays as it is.
-/

namespace DisclosureRelay.Http

/-- The characters that part a host from the rest of an address, and other ones that no host
holds. -/
def delimiters : List Char :=
  ['\x00', '\t', '\n', '\r', ' ', '#', '/', ':', '<', '>', '?', '@', '[', '\\', ']', '^', '|']

/-- Whether no domain name holds a character. -/
def isForbiddenInDomain (c : Char) : Bool :=
  c.toNat ≤ 0x20 || c.toNat == 0x7f || c == '%' || delimiters.contains c

/-- A part of an IPv4 address: decimal, or octal or hexadecimal by how it begins. -/
def ipv4Part? (s : List Char) : Option Nat :=
  match s with
  | [] => none
  | '0' :: 'x' :: digits | '0' :: 'X' :: digits => Text.Hex.value? digits
  | '0' :: digits =>
    if digits.all fun c => '0' ≤ c && c ≤ '7' then some (Nat.ofDigitChars 8 digits 0) else none
  | digits => if digits.all Char.isDigit then some (Nat.ofDigitChars 10 digits 0) else none

/-- The parts of a name between its points, without an empty one at the end. -/
def labels (name : List Char) : List (List Char) :=
  let parts := name.splitOn '.'
  if parts.getLast? = some [] ∧ parts.length > 1 then parts.dropLast else parts

/-- Whether a name has to be an IPv4 address: its last part is a number. -/
def endsInNumber (name : List Char) : Bool :=
  match (labels name).getLast? with
  | none => false
  | some last => (!last.isEmpty && last.all Char.isDigit) ||
      (last.take 2 == ['0', 'x'] && (ipv4Part? last).isSome)

/-- The value of an IPv4 address of up to four parts, of which the last fills the remaining bytes. -/
def ipv4? (name : List Char) : Option Nat := do
  let numbers ← (labels name).mapM ipv4Part?
  let last ← numbers.getLast?
  let front := numbers.dropLast
  if front.length ≤ 3 ∧ front.all (· ≤ 255) ∧ last < Nat.pow 256 (4 - front.length) then
    some (front.foldl (fun held part => 256 * held + part) 0 * Nat.pow 256 (4 - front.length) + last)
  else none

/-- An IPv4 address in four decimal parts. -/
def ipv4Chars (value : Nat) : List Char :=
  let parts := [value / Nat.pow 256 3, value / Nat.pow 256 2 % 256, value / 256 % 256, value % 256]
  parts.map (Nat.toDigits 10) |>.intersperse ['.'] |>.flatten

/-- A piece of an IPv6 address, of up to four digits. -/
def ipv6Piece? (part : List Char) : Option Nat :=
  if part.isEmpty ∨ part.length > 4 then none else Text.Hex.value? part

/-- The two pieces of an IPv6 address that an IPv4 address stands for. -/
def ipv4Pieces? (s : List Char) : Option (List Nat) := do
  let parts := s.splitOn '.'
  let isByte (part : List Char) : Bool :=
    part.length ≤ 3 && part.all Char.isDigit && (part.length == 1 || part.head? != some '0')
  if parts.length = 4 ∧ parts.all isByte then
    let value ← ipv4? s
    some [value / 65536, value % 65536]
  else none

/-- The pieces of one side of an IPv6 address; at the end of the address an IPv4 address may stand
for two of them. -/
def ipv6Pieces? (isLast : Bool) (s : List Char) : Option (List Nat) :=
  if s.isEmpty then some []
  else
    let parts := s.splitOn ':'
    let last := parts.getLast?.getD []
    if isLast ∧ last.contains '.' then do
      some ((← parts.dropLast.mapM ipv6Piece?) ++ (← ipv4Pieces? last))
    else parts.mapM ipv6Piece?

/-- Splits a text at the first occurrence of two colons. -/
def splitAtGap : List Char → Option (List Char × List Char)
  | [] => none
  | ':' :: ':' :: rest => some ([], rest)
  | c :: rest => (splitAtGap rest).map fun (front, back) => (c :: front, back)

/-- The eight pieces of an IPv6 address. -/
def ipv6? (s : List Char) : Option (List Nat) :=
  match splitAtGap s with
  | none => do
    let pieces ← ipv6Pieces? true s
    if pieces.length = 8 then some pieces else none
  | some (front, back) => do
    let front ← ipv6Pieces? false front
    let back ← ipv6Pieces? true back
    if front.length + back.length < 8 then
      some (front ++ List.replicate (8 - front.length - back.length) 0 ++ back)
    else none

/-- How many zeros a list begins with. -/
def leadingZeros (pieces : List Nat) : Nat :=
  (pieces.takeWhile (· = 0)).length

/-- The start and the length of the first longest row of zeros. -/
def longestZeros (pieces : List Nat) : Nat × Nat :=
  (List.range pieces.length).foldl
    (fun best i =>
      let length := leadingZeros (pieces.drop i)
      if length > best.2 then (i, length) else best)
    (0, 0)

/-- Pieces in hexadecimal digits between colons. -/
def piecesChars (pieces : List Nat) : List Char :=
  (pieces.map (Nat.toDigits 16)).intersperse [':'] |>.flatten

/-- An IPv6 address, with a row of two zeros or more left out. -/
def ipv6Chars (pieces : List Nat) : List Char :=
  let (start, length) := longestZeros pieces
  if length ≤ 1 then piecesChars pieces
  else piecesChars (pieces.take start) ++ ':' :: ':' :: piecesChars (pieces.drop (start + length))

/-- The IPv6 address in brackets, behind the first of them. -/
def bracketed? (s : List Char) : Option String :=
  if s.getLast? = some ']' then
    (ipv6? s.dropLast).map fun pieces => String.ofList ('[' :: ipv6Chars pieces ++ [']'])
  else none

/-- A domain name or an IPv4 address in its canonical form. -/
def domain? (s : List Char) : Option String := do
  let name ← Domain.ascii? (Text.Utf8.decode (Text.Percent.decode s))
  if name.isEmpty ∨ name.any isForbiddenInDomain then none
  else if endsInNumber name then (ipv4? name).map fun value => String.ofList (ipv4Chars value)
  else some (String.ofList name)

/-- A host in its canonical form. -/
def host? (s : List Char) : Option String :=
  match s with
  | '[' :: rest => bracketed? rest
  | s => domain? s

/-- A host that is not known to be a domain, in its canonical form. -/
def opaqueHost? (s : List Char) : Option String :=
  match s with
  | '[' :: rest => bracketed? rest
  | s => if s.any delimiters.contains then none else some (String.ofList (Text.Percent.encodeWith [] s))

end DisclosureRelay.Http
