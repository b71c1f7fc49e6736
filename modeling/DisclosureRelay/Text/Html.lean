/-!
# Escaping for HTML

Five characters have an entity of their own. `escape` replaces them in five passes over the whole
text, the ampersand first; `escapeOnce` is the single pass that replaces each character by itself;
`unescape` undoes the entities. `tag` and `tagAttribute` write a tag and its attributes.
-/

namespace DisclosureRelay.Text.Html

/-- Puts a text in the place of every occurrence of a character. -/
def replaceAll (c : Char) (entity : List Char) (s : List Char) : List Char :=
  s.flatMap fun d => if d = c then entity else [d]

/-- The entity of an ampersand. -/
def ampersand : List Char := ['&', 'a', 'm', 'p', ';']

/-- The entity of a less-than sign. -/
def less : List Char := ['&', 'l', 't', ';']

/-- The entity of a greater-than sign. -/
def greater : List Char := ['&', 'g', 't', ';']

/-- The entity of a double quote. -/
def quote : List Char := ['&', 'q', 'u', 'o', 't', ';']

/-- The entity of an apostrophe. -/
def apostrophe : List Char := ['&', '#', 'x', '2', '7', ';']

/-- Escapes the characters of a text, one kind after the other. -/
def escapeChars (s : List Char) : List Char :=
  replaceAll '\'' apostrophe
    (replaceAll '"' quote
      (replaceAll '>' greater
        (replaceAll '<' less
          (replaceAll '&' ampersand s))))

/-- What stands for one character. -/
def entity (c : Char) : List Char :=
  match c with
  | '&' => ampersand
  | '<' => less
  | '>' => greater
  | '"' => quote
  | '\'' => apostrophe
  | c => [c]

/-- Escapes the characters of a text in one pass. -/
def escapeOnce (s : List Char) : List Char :=
  s.flatMap entity

/-- Undoes the five entities; any other text stays as it is. -/
def unescape : List Char → List Char
  | '&' :: 'a' :: 'm' :: 'p' :: ';' :: rest => '&' :: unescape rest
  | '&' :: 'l' :: 't' :: ';' :: rest => '<' :: unescape rest
  | '&' :: 'g' :: 't' :: ';' :: rest => '>' :: unescape rest
  | '&' :: 'q' :: 'u' :: 'o' :: 't' :: ';' :: rest => '"' :: unescape rest
  | '&' :: '#' :: 'x' :: '2' :: '7' :: ';' :: rest => '\'' :: unescape rest
  | c :: rest => c :: unescape rest
  | [] => []

/-- A text as it stands inside an attribute. -/
def escape (text : String) : String :=
  String.ofList (escapeChars text.toList)

/-- A tag by what stands between its brackets. -/
def tag (inside : String) : String :=
  "<" ++ inside ++ ">"

/-- An attribute of a tag by its name and the value that stands between its quotes. -/
def tagAttribute (name value : String) : String :=
  " " ++ name ++ "=\"" ++ value ++ "\""

end DisclosureRelay.Text.Html
