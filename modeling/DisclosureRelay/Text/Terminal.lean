/-!
# Control sequences of terminals

A text that is meant for a terminal may hold sequences that steer it. They begin with an escape
character, and what ends one depends on its kind. `plain` leaves out all of them, and every control
other than a blank. A blank inside a sequence is shown, and the characters behind it are shown as
well, up to the next control.
-/

namespace DisclosureRelay.Text.Terminal

/-- What a character belongs to. -/
inductive Mode where
  /-- A text that is shown. -/
  | ground
  /-- A sequence of which only the escape character came. -/
  | escape
  /-- An escape sequence of more than two characters. -/
  | intermediate
  /-- A control sequence. -/
  | control
  /-- A command to the system behind the terminal, up to a bell. -/
  | command
  /-- The beginning of a string for a device. -/
  | device
  /-- A string, up to its terminator. -/
  | string
  deriving DecidableEq

/-- Whether a character ends sequences whose last character is not below a bound. -/
def isFinal (low : Nat) (c : Char) : Bool :=
  low ≤ c.toNat && c.toNat ≤ 0x7e

/-- What the character behind a character belongs to, within what is not shown. -/
def Mode.next (mode : Mode) (c : Char) : Mode :=
  if c = '\x1b' then .escape
  else if c = '\x18' ∨ c = '\x1a' then .ground
  else
    match mode with
    | .ground => .ground
    | .escape =>
      match c with
      | '[' => .control
      | ']' => .command
      | 'P' => .device
      | 'X' | '^' | '_' => .string
      | _ =>
        if isFinal 0x30 c then .ground
        else if isFinal 0x20 c then .intermediate
        else .escape
    | .intermediate => if isFinal 0x30 c then .ground else .intermediate
    | .control => if isFinal 0x40 c then .ground else .control
    | .command => if c = '\x07' then .ground else .command
    | .device => if isFinal 0x40 c then .string else .device
    | .string => if (String.utf8EncodeChar c).contains 0x9c then .ground else .string

/-- Whether a character is a control that is a blank. -/
def isBlankControl (c : Char) : Bool :=
  c == '\t' || c == '\n' || c == '\x0c' || c == '\r'

/-- Whether a text shows a character. -/
def isShown (c : Char) : Bool :=
  isBlankControl c || (0x20 ≤ c.toNat && c.toNat ≠ 0x7f)

/-- Whether a character ends what is not shown, and is itself shown. -/
def Mode.endsAt (mode : Mode) (c : Char) : Bool :=
  match mode with
  | .ground => isShown c
  | .escape | .intermediate | .control => isBlankControl c
  | .command | .device | .string => false

/-- The characters that are shown of a text, of which the character before was shown or not. -/
def plainFrom : Mode → Bool → List Char → List Char
  | _, _, [] => []
  | mode, showing, c :: rest =>
    if if showing then isShown c else mode.endsAt c then
      c :: plainFrom (if c.toNat < 0x80 then mode else .ground) true rest
    else plainFrom (mode.next c) false rest

/-- A text without what steers a terminal. -/
def plain (text : String) : String :=
  String.ofList (plainFrom .ground false text.toList)

end DisclosureRelay.Text.Terminal
