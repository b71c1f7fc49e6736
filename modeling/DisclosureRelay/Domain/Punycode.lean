/-!
# Punycode

A label of any characters, written in ASCII. `encode` gives the ASCII characters of the label first
and behind the last `-` the others, in the order of their code points: for each of them the number
of places by which it is behind the one before, over all code points in between, as digits of base
36. `decode` reads that. How many digits a number has adapts to the numbers before it (`adapt`).
-/

namespace DisclosureRelay.Domain.Punycode

/-- The digit of a value below 36. -/
def digitChar (value : Nat) : Char :=
  if value < 26 then Char.ofNat ('a'.toNat + value) else Char.ofNat ('0'.toNat + (value - 26))

/-- The value of a digit of either case. -/
def digit? (c : Char) : Option Nat :=
  if 'a' ≤ c ∧ c ≤ 'z' then some (c.toNat - 'a'.toNat)
  else if 'A' ≤ c ∧ c ≤ 'Z' then some (c.toNat - 'A'.toNat)
  else if '0' ≤ c ∧ c ≤ '9' then some (c.toNat - '0'.toNat + 26)
  else none

/-- The bound under which the last digit of a number is, at a position that counts by 36. -/
def threshold (bias position : Nat) : Nat :=
  max 1 (min 26 (position - bias))

/-- The bound is not zero, so that a number has a last digit. -/
theorem threshold_pos (bias position : Nat) : 0 < threshold bias position := by
  simp only [threshold]
  omega

/-- How often a number is divided by 35 until it is not above 455, and what it is then. -/
def shrink (number count : Nat) : Nat × Nat :=
  if 455 < number then shrink (number / 35) (count + 1) else (number, count)
termination_by number
decreasing_by omega

/-- The bias behind a number, from the size of the label so far. -/
def adapt (number size : Nat) (isFirst : Bool) : Nat :=
  let damped := if isFirst then number / 700 else number / 2
  let (rest, count) := shrink (damped + damped / size) 0
  36 * count + 36 * rest / (rest + 38)

/-- The digits of a number. -/
def digits (bias position number : Nat) : List Char :=
  let t := threshold bias position
  if number < t then [digitChar number]
  else
    digitChar (t + (number - t) % (36 - t))
      :: digits bias (position + 36) ((number - t) / (36 - t))
termination_by number
decreasing_by
  have := threshold_pos bias position
  have : (number - threshold bias position) / (36 - threshold bias position)
      ≤ number - threshold bias position := Nat.div_le_self _ _
  omega

/-- What was written of a label: the digits, how many characters that makes, and how far it is to
the next one. -/
structure Writing where
  digits : List Char := []
  size : Nat
  distance : Nat := 0
  bias : Nat := 72

/-- Passes over a character of the label, or writes it if it is the next one. -/
def Writing.pass (isFirst : Nat → Bool) (code : Nat) (w : Writing) (c : Char) : Writing :=
  if c.toNat < code then { w with distance := w.distance + 1 }
  else if c.toNat = code then
    { digits := w.digits ++ Punycode.digits w.bias 36 w.distance
      size := w.size + 1
      distance := 0
      bias := adapt w.distance (w.size + 1) (isFirst w.size) }
  else w

/-- Writes the characters of a label that have the given code points, which are in order; `code` is
the first code point that was not passed over. -/
def writeCodes (label : List Char) (isFirst : Nat → Bool) (code : Nat) (w : Writing) :
    List Nat → Writing
  | [] => w
  | next :: rest =>
    let w := { w with distance := w.distance + (next - code) * (w.size + 1) }
    let w := label.foldl (Writing.pass isFirst next) w
    writeCodes label isFirst (next + 1) { w with distance := w.distance + 1 } rest

/-- Whether a character is ASCII. -/
def isBasic (c : Char) : Bool :=
  c.toNat < 0x80

/-- The label in ASCII. -/
def encode (label : List Char) : List Char :=
  let basic := label.filter isBasic
  let codes := ((label.filter (!isBasic ·)).map Char.toNat).mergeSort.eraseDups
  let w := writeCodes label (· == basic.length) 0x80 { size := basic.length } codes
  (if basic.isEmpty then [] else basic ++ ['-']) ++ w.digits

/-- Reads the digits of a number, of which `weight` is the worth of the next one, and gives the
number and what follows. -/
def readNumber (bias : Nat) : Nat → Nat → Nat → List Char → Option (Nat × List Char)
  | _, _, _, [] => none
  | position, weight, number, c :: rest =>
    match digit? c with
    | none => none
    | some value =>
      let t := threshold bias position
      let number := number + value * weight
      if value < t then some (number, rest)
      else readNumber bias (position + 36) (weight * (36 - t)) number rest

/-- Reading a number uses up some of the digits. -/
theorem length_readNumber {bias position weight number value : Nat} {s rest : List Char}
    (h : readNumber bias position weight number s = some (value, rest)) :
    rest.length < s.length := by
  induction s generalizing position weight number with
  | nil => simp [readNumber] at h
  | cons c s ih =>
    simp only [readNumber] at h
    split at h
    · simp at h
    · split at h
      · obtain ⟨_, rfl⟩ := Prod.mk.inj (Option.some.inj h)
        simp
      · have := ih h
        simp only [List.length_cons]
        omega

/-- Puts the characters of the digits into a label: `code` and `place` are those of the last one. -/
def readCodes (label : List Char) (bias code place : Nat) (isFirst : Bool) (s : List Char) :
    Option (List Char) :=
  if s.isEmpty then some label
  else
    match h : readNumber bias 36 1 0 s with
    | none => none
    | some (number, rest) =>
      let size := label.length + 1
      let next := code + (place + number) / size
      let spot := (place + number) % size
      if next.isValidChar then
        readCodes (label.insertIdx spot (Char.ofNat next)) (adapt number size isFirst) next (spot + 1)
          false rest
      else none
termination_by s.length
decreasing_by exact length_readNumber h

/-- The label that is written in ASCII, if it is well formed. -/
def decode (s : List Char) : Option (List Char) :=
  let digits := (s.reverse.takeWhile (· ≠ '-')).reverse
  let basic := s.take (s.length - digits.length - 1)
  let digits := if basic.isEmpty then s else digits
  if basic.all isBasic then readCodes basic 72 0x80 0 true digits else none

end DisclosureRelay.Domain.Punycode
