import DisclosureRelay.Domain.Direction
import DisclosureRelay.Domain.Joiner
import DisclosureRelay.Domain.Punycode
import DisclosureRelay.Domain.Spelling
import DisclosureRelay.Text.Composition

/-!
# Domain names in ASCII

`ascii?` gives the one form of a domain name by which it is looked up: in small letters, with
composed characters, and with every label that is not ASCII in Punycode behind `xn--`. A label that
is given in that form already has to be one that would be given it (`readLabel?`).
-/

namespace DisclosureRelay.Domain

/-- What a label in Punycode has in front. -/
def encodedMark : List Char := ['x', 'n', '-', '-']

/-- Whether all characters are ASCII. -/
def isBasicText (s : List Char) : Bool :=
  s.all Punycode.isBasic

/-- A name as it is meant, if it may be written as it is. -/
def meant? (name : List Char) : Option (List Char) :=
  (name.mapM spell?).map fun parts => Text.composed parts.flatten

/-- Whether a label may be part of a name. -/
def isLabel (label : List Char) : Bool :=
  isBasicText label || (!label.head?.any Text.Marks.isMark && joinersFit [] label)

/-- The characters that a label stands for, if it may be part of a name. -/
def readLabel? (label : List Char) : Option (List Char) := do
  let isMarked := encodedMark.isPrefixOf label
  let label ← if isMarked then Punycode.decode (label.drop encodedMark.length) else some label
  if isMarked ∧ (isBasicText label ∨ encodedMark.isPrefixOf label ∨ meant? label ≠ some label) then none
  else if isLabel label then some label
  else none

/-- Whether the labels of a name can be told apart, whatever their direction. -/
def directionsFit (labels : List (List Char)) : Bool :=
  !(labels.any fun label => label.any fun c => (Direction.ofChar c).isRightward)
    || labels.all goesOneWay

/-- A label in ASCII. -/
def writeLabel (label : List Char) : List Char :=
  if isBasicText label then label else encodedMark ++ Punycode.encode label

/-- Whether a name in small ASCII letters stands for itself: none of its labels is in Punycode. -/
def isPlainName (name : List Char) : Bool :=
  isBasicText name && !(name.splitOn '.').any encodedMark.isPrefixOf

/-- A name in ASCII, if it is well formed. -/
def ascii? (name : List Char) : Option (List Char) :=
  let small := name.map Char.toLower
  if isPlainName small then some small
  else do
    let labels ← ((← meant? name).splitOn '.').mapM readLabel?
    if directionsFit labels then some ((labels.map writeLabel).intersperse ['.']).flatten else none

end DisclosureRelay.Domain
