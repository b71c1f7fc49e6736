import DisclosureRelay.Text.Hex

/-!
# Tables of code points

Properties of characters are given by tables. A set of code points is a list of ranges, each with
its first and its last member. A large table is written as a text of rows with blanks between them,
in which code points are given by hexadecimal digits: `ranges` reads a set, and `cells` the cells of
the rows.
-/

namespace DisclosureRelay.Text.Table

/-- Whether a code point lies in one of the ranges. -/
def within (ranges : List (Nat × Nat)) (code : Nat) : Bool :=
  ranges.any fun range => range.1 ≤ code && code ≤ range.2

/-- The rows of a table. -/
def rows (text : String) : List (List Char) :=
  (text.toList.splitOnP fun c => c == ' ' || c == '\n').filter (!·.isEmpty)

/-- The code point of some digits. -/
def code (digits : List Char) : Nat :=
  (Hex.value? digits).getD 0

/-- The range of a row: its first and its last member, or its only one. -/
def range (row : List Char) : Nat × Nat :=
  let first := row.takeWhile (· ≠ '-')
  let last := (row.dropWhile (· ≠ '-')).drop 1
  (code first, code (if last.isEmpty then first else last))

/-- The set of a table. -/
def ranges (text : String) : List (Nat × Nat) :=
  (rows text).map range

/-- The two cells of a row on both sides of a sign. -/
def cells (sign : Char) (row : List Char) : List Char × List Char :=
  (row.takeWhile (· ≠ sign), (row.dropWhile (· ≠ sign)).drop 1)

end DisclosureRelay.Text.Table
