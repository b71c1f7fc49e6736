import DisclosureRelay.Json.Fault

/-!
# Text literals

How texts are read, from behind the opening quote. `literal` reads a text and `skipLiteral` passes
over one. They differ in the escapes by code unit: a text that is kept must not hold half of a
surrogate pair, a text that is passed over may.
-/

namespace DisclosureRelay.Json

/-- The number of bytes a text takes in UTF-8. -/
def byteCount (s : List Char) : Nat :=
  s.foldl (fun count c => count + c.utf8Size) 0

/-- The code unit that the next four bytes give as hexadecimal digits. -/
def codeUnit (s : List Char) : Except Fault (Nat × List Char) :=
  if byteCount (s.take 4) < 4 then .error .endInText
  else
    match s with
    | a :: b :: c :: d :: rest =>
      match Text.Hex.value? [a, b, c, d] with
      | some unit => .ok (unit, rest)
      | none => .error .invalidEscape
    | _ => .error .invalidEscape

/-- The second half of a surrogate pair, which has to follow the first half at once. -/
def secondHalf : List Char → Except Fault (Nat × List Char)
  | [] => .error .endInText
  | '\\' :: [] => .error .endInText
  | '\\' :: 'u' :: rest => do
    let (unit, rest) ← codeUnit rest
    if 0xDC00 ≤ unit ∧ unit ≤ 0xDFFF then .ok (unit, rest) else .error .loneSurrogate
  | _ => .error .brokenSurrogatePair

/-- The character of an escape by code unit, from behind the `u`. -/
def unicodeEscape (s : List Char) : Except Fault (Char × List Char) := do
  let (unit, rest) ← codeUnit s
  if 0xDC00 ≤ unit ∧ unit ≤ 0xDFFF then .error .loneSurrogate
  else if 0xD800 ≤ unit ∧ unit ≤ 0xDBFF then
    let (low, rest) ← secondHalf rest
    .ok (Char.ofNat ((unit - 0xD800) * 0x400 + (low - 0xDC00) + 0x10000), rest)
  else .ok (Char.ofNat unit, rest)

/-- An escape by code unit that is passed over. -/
def unicodeSkip (s : List Char) : Except Fault (Char × List Char) := do
  let (_, rest) ← codeUnit s
  .ok ('u', rest)

/-- An escape, from behind the backslash; `unicode` reads an escape by code unit. -/
def escapeBy (unicode : List Char → Except Fault (Char × List Char)) :
    List Char → Except Fault (Char × List Char)
  | [] => .error .endInText
  | c :: rest =>
    match c with
    | '"' => .ok ('"', rest)
    | '\\' => .ok ('\\', rest)
    | '/' => .ok ('/', rest)
    | 'b' => .ok ('\x08', rest)
    | 'f' => .ok ('\x0c', rest)
    | 'n' => .ok ('\n', rest)
    | 'r' => .ok ('\r', rest)
    | 't' => .ok ('\t', rest)
    | 'u' => unicode rest
    | _ => .error .invalidEscape

/-- The characters up to the closing quote, which is passed over. Every step takes a character, so
as many steps as there are characters are enough. -/
def literalWithin (unicode : List Char → Except Fault (Char × List Char)) :
    Nat → List Char → Except Fault (List Char × List Char)
  | 0, _ => .error .endInText
  | _, [] => .error .endInText
  | steps + 1, c :: rest =>
    if c = '"' then .ok ([], rest)
    else if c = '\\' then do
      let (held, rest) ← escapeBy unicode rest
      let (more, rest) ← literalWithin unicode steps rest
      .ok (held :: more, rest)
    else if c.toNat < 32 then .error .controlCharacter
    else do
      let (more, rest) ← literalWithin unicode steps rest
      .ok (c :: more, rest)

/-- Reads a text from behind its opening quote. -/
def literal : Reader String := fun s => do
  let (chars, rest) ← literalWithin unicodeEscape s.length s
  .ok (String.ofList chars, rest)

/-- Passes over a text from behind its opening quote. -/
def skipLiteral : Reader Unit := fun s => do
  let (_, rest) ← literalWithin unicodeSkip s.length s
  .ok ((), rest)

end DisclosureRelay.Json
