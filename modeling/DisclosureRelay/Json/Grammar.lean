import DisclosureRelay.Json.Reader

/-!
# The grammar of JSON

Which texts say what, without a reader. A `Tree` is what a text says before it is made a value:
numbers are numerals, and an object has all its members in the order of the text, repeated ones
included. `Spells` relates a text to what it says, `SpellsWhole` allows for blanks around it, and
`Tree.Holds` says which value a tree stands for.
-/

namespace DisclosureRelay.Json

/-- What a text says. -/
inductive Tree where
  | null
  | bool (value : Bool)
  | number (numeral : Numeral)
  | text (value : String)
  | list (items : List Tree)
  | object (members : List (String × Tree))

/-- Blanks and nothing else. -/
def Blanks (s : List Char) : Prop :=
  ∀ c ∈ s, isBlank c

/-- One decimal digit or more, and nothing else. -/
def Digits (s : List Char) : Prop :=
  s ≠ [] ∧ ∀ c ∈ s, c.isDigit

namespace Numeral

/-- The digits before the point: a leading zero stands alone. -/
def Whole (s : List Char) : Prop :=
  Digits s ∧ (s.head? = some '0' → s.length = 1)

/-- The texts of a fraction. -/
inductive SpellsFraction : List Char → Option (List Char) → Prop where
  | none : SpellsFraction [] none
  | some {digits : List Char} : Digits digits → SpellsFraction ('.' :: digits) (some digits)

/-- The texts of the sign of an exponent. -/
inductive SpellsSign : List Char → Bool → Prop where
  | none : SpellsSign [] false
  | plus : SpellsSign ['+'] false
  | minus : SpellsSign ['-'] true

/-- The texts of an exponent. -/
inductive SpellsExponent : List Char → Option (Bool × List Char) → Prop where
  | none : SpellsExponent [] none
  | some {mark : Char} {sign digits : List Char} {negative : Bool} :
      mark = 'e' ∨ mark = 'E' → SpellsSign sign negative → Digits digits →
      SpellsExponent (mark :: sign ++ digits) (some (negative, digits))

/-- The texts of a numeral. -/
inductive Spells : List Char → Numeral → Prop where
  | parts {negative : Bool} {whole s t : List Char} {fraction : Option (List Char)}
      {exponent : Option (Bool × List Char)} :
      Whole whole → SpellsFraction s fraction → SpellsExponent t exponent →
      Spells ((if negative then ['-'] else []) ++ whole ++ s ++ t)
        ⟨negative, whole, fraction, exponent⟩

end Numeral

/-- The letters of the short escapes with what they stand for. -/
def shortEscapes : List (Char × Char) :=
  [('"', '"'), ('\\', '\\'), ('/', '/'), ('b', '\x08'), ('f', '\x0c'), ('n', '\n'), ('r', '\r'),
    ('t', '\t')]

/-- The texts of one character inside a literal: itself, a short escape, or its code units. -/
inductive SpellsChar : List Char → Char → Prop where
  | plain {c : Char} : c ≠ '"' → c ≠ '\\' → 32 ≤ c.toNat → SpellsChar [c] c
  | short {letter c : Char} : (letter, c) ∈ shortEscapes → SpellsChar ['\\', letter] c
  | unit {unit : Nat} {a b c d : Char} :
      Text.Hex.value? [a, b, c, d] = some unit → unit < 0xD800 ∨ 0xDFFF < unit →
      SpellsChar ['\\', 'u', a, b, c, d] (Char.ofNat unit)
  | pair {high low : Nat} {a b c d a' b' c' d' : Char} :
      Text.Hex.value? [a, b, c, d] = some high → 0xD800 ≤ high ∧ high < 0xDC00 →
      Text.Hex.value? [a', b', c', d'] = some low → 0xDC00 ≤ low ∧ low < 0xE000 →
      SpellsChar ['\\', 'u', a, b, c, d, '\\', 'u', a', b', c', d']
        (Char.ofNat ((high - 0xD800) * 0x400 + (low - 0xDC00) + 0x10000))

/-- The texts of characters one after the other. -/
inductive SpellsChars : List Char → List Char → Prop where
  | nil : SpellsChars [] []
  | cons {s t : List Char} {c : Char} {cs : List Char} :
      SpellsChar s c → SpellsChars t cs → SpellsChars (s ++ t) (c :: cs)

/-- The literals of a text. -/
inductive SpellsText : List Char → String → Prop where
  | quoted {s : List Char} {text : String} :
      SpellsChars s text.toList → SpellsText ('"' :: s ++ ['"']) text

mutual

/-- The texts of a tree. -/
inductive Spells : List Char → Tree → Prop where
  | null : Spells ['n', 'u', 'l', 'l'] .null
  | true : Spells ['t', 'r', 'u', 'e'] (.bool true)
  | false : Spells ['f', 'a', 'l', 's', 'e'] (.bool false)
  | number {s : List Char} {numeral : Numeral} : numeral.Spells s → Spells s (.number numeral)
  | text {s : List Char} {text : String} : SpellsText s text → Spells s (.text text)
  | noItems {blanks : List Char} : Blanks blanks → Spells ('[' :: blanks ++ [']']) (.list [])
  | list {s : List Char} {items : List Tree} :
      SpellsItems s items → Spells ('[' :: s ++ [']']) (.list items)
  | noMembers {blanks : List Char} :
      Blanks blanks → Spells ('\x7b' :: blanks ++ ['\x7d']) (.object [])
  | object {s : List Char} {members : List (String × Tree)} :
      SpellsMembers s members → Spells ('\x7b' :: s ++ ['\x7d']) (.object members)

/-- The texts of items, of which there is one at least. -/
inductive SpellsItems : List Char → List Tree → Prop where
  | last {front s back : List Char} {item : Tree} :
      Blanks front → Spells s item → Blanks back → SpellsItems (front ++ s ++ back) [item]
  | more {front s back t : List Char} {item : Tree} {items : List Tree} :
      Blanks front → Spells s item → Blanks back → SpellsItems t items →
      SpellsItems (front ++ s ++ back ++ ',' :: t) (item :: items)

/-- The texts of members, of which there is one at least. -/
inductive SpellsMembers : List Char → List (String × Tree) → Prop where
  | last {front name gap gap' s back : List Char} {key : String} {item : Tree} :
      Blanks front → SpellsText name key → Blanks gap → Blanks gap' → Spells s item →
      Blanks back →
      SpellsMembers (front ++ name ++ gap ++ ':' :: gap' ++ s ++ back) [(key, item)]
  | more {front name gap gap' s back t : List Char} {key : String} {item : Tree}
      {members : List (String × Tree)} :
      Blanks front → SpellsText name key → Blanks gap → Blanks gap' → Spells s item →
      Blanks back → SpellsMembers t members →
      SpellsMembers (front ++ name ++ gap ++ ':' :: gap' ++ s ++ back ++ ',' :: t)
        ((key, item) :: members)

end

/-- The texts of a tree with blanks around it. -/
inductive SpellsWhole : List Char → Tree → Prop where
  | blanks {front s back : List Char} {tree : Tree} :
      Blanks front → Spells s tree → Blanks back → SpellsWhole (front ++ s ++ back) tree

namespace Tree

mutual

/-- How deep the brackets of a tree nest. -/
def depth : Tree → Nat
  | .null | .bool _ | .number _ | .text _ => 0
  | .list items => itemsDepth items + 1
  | .object members => membersDepth members + 1

/-- How deep the brackets of the items nest. -/
def itemsDepth : List Tree → Nat
  | [] => 0
  | item :: items => max item.depth (itemsDepth items)

/-- How deep the brackets of the members nest. -/
def membersDepth : List (String × Tree) → Nat
  | [] => 0
  | (_, item) :: members => max item.depth (membersDepth members)

end

mutual

/-- The values of trees: numerals have to be in range, and of two members of one name the later one
counts. -/
inductive Holds : Tree → Json → Prop where
  | null : Holds .null .null
  | bool (value : Bool) : Holds (.bool value) (.bool value)
  | number {numeral : Numeral} {value : Number} :
      numeral.number = .ok value → Holds (.number numeral) (.number value)
  | text (value : String) : Holds (.text value) (.text value)
  | list {items : List Tree} {values : List Json} :
      HoldsItems items values → Holds (.list items) (.list values)
  | object {members : List (String × Tree)} {values : Members} :
      HoldsMembers [] members values → Holds (.object members) (.object values)

/-- The values of items. -/
inductive HoldsItems : List Tree → List Json → Prop where
  | nil : HoldsItems [] []
  | cons {item : Tree} {value : Json} {items : List Tree} {values : List Json} :
      Holds item value → HoldsItems items values → HoldsItems (item :: items) (value :: values)

/-- The values of members, put to those gathered so far. -/
inductive HoldsMembers : Members → List (String × Tree) → Members → Prop where
  | nil (held : Members) : HoldsMembers held [] held
  | cons {held values : Members} {name : String} {item : Tree} {value : Json}
      {members : List (String × Tree)} :
      Holds item value → HoldsMembers (held.insert name value) members values →
      HoldsMembers held ((name, item) :: members) values

end

/-- A whole number of 64 bits, written without sign, fraction and exponent. -/
def IsNatural (tree : Tree) (value : Nat) : Prop :=
  ∃ whole, tree = .number ⟨false, whole, none, none⟩ ∧ Nat.ofDigitChars 10 whole 0 = value ∧
    value < Nat.pow 2 64

end Tree

end DisclosureRelay.Json
