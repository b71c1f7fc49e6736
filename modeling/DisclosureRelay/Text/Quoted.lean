import DisclosureRelay.Text.Hex
import DisclosureRelay.Text.Plain

/-!
# Quoted texts in messages

A text inside a message is shown between double quotes. Quotes, backslashes and the common controls
have an escape of their own, and any other character that is not plain is given by its code point.
-/

namespace DisclosureRelay.Text

/-- One character inside quotes. -/
def quotedChar (c : Char) : List Char :=
  match c with
  | '\x00' => ['\\', '0']
  | '\t' => ['\\', 't']
  | '\r' => ['\\', 'r']
  | '\n' => ['\\', 'n']
  | '\\' => ['\\', '\\']
  | '"' => ['\\', '"']
  | _ => if isPlain c then [c] else '\\' :: 'u' :: '\x7b' :: Nat.toDigits 16 c.toNat ++ ['\x7d']

/-- A text between double quotes. -/
def quoted (text : String) : String :=
  String.ofList ('"' :: text.toList.flatMap quotedChar ++ ['"'])

end DisclosureRelay.Text
