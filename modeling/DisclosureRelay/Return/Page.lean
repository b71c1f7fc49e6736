import DisclosureRelay.Return.Form
import DisclosureRelay.Text.Html

/-!
# Return pages

A page of its own that posts a return form as soon as it is loaded. `Form.page` writes it, and
`Page.decode` reads the form back: the page is split at its double quotes, so that every other piece
is the value of an attribute, and the entities in these values are undone. `Page.tags` lists the
tags of a page.
-/

namespace DisclosureRelay.Return

open Text.Html (escape tag tagAttribute)

/-- The page up to its form. -/
def pageHead : String :=
  "<!DOCTYPE html>\n<html>\n<head>\n    <title>Returning to service</title>\n</head>\n"
    ++ tag ("body" ++ tagAttribute "onload" "document.forms[0].submit()") ++ "\n    "

/-- The page behind the fields of the form. -/
def pageTail : String :=
  "        <noscript>\n            "
    ++ tag ("input" ++ tagAttribute "type" "submit" ++ tagAttribute "value" "Continue" ++ "/")
    ++ "\n        </noscript>\n    </form>\n</body>\n</html>"

/-- What stands in the tag of a form. -/
def formTag (action : String) : String :=
  "form" ++ tagAttribute "method" "post" ++ tagAttribute "action" (escape action)

/-- What stands in the tag of a field, which is a hidden input. -/
def inputTag (field : String × String) : String :=
  "input" ++ tagAttribute "type" "hidden" ++ tagAttribute "name" (escape field.1)
    ++ tagAttribute "value" (escape field.2) ++ "/"

/-- The line of a field. -/
def inputLine (field : String × String) : String :=
  "        " ++ tag (inputTag field) ++ "\n"

/-- The page that posts a form. -/
def Form.page (form : Form) : String :=
  pageHead ++ tag (formTag form.action) ++ "\n" ++ String.join (form.fields.map inputLine)
    ++ pageTail

namespace Page

/-- Every second piece, from the second one on. -/
def quotedPieces : List (List Char) → List (List Char)
  | _ :: piece :: rest => piece :: quotedPieces rest
  | _ => []

/-- The text of an attribute. -/
def attributeText (piece : List Char) : String :=
  String.ofList (Text.Html.unescape piece)

/-- The fields of the hidden inputs that a list of attributes begins with. -/
def hiddenFields : List (List Char) → List (String × String)
  | kind :: name :: value :: rest =>
    if kind = "hidden".toList then (attributeText name, attributeText value) :: hiddenFields rest
    else []
  | _ => []

/-- Reads the form of a page. -/
def decode (page : String) : Option Form :=
  match quotedPieces (page.toList.splitOn '"') with
  | _ :: _ :: action :: rest =>
    some { action := attributeText action, fields := hiddenFields rest }
  | _ => none

/-- The tags of a page: what stands between a less-than sign and the next greater-than sign. -/
def tags (page : String) : List String :=
  ((page.toList.splitOn '<').drop 1).map fun piece => String.ofList (piece.takeWhile (· ≠ '>'))

/-- The tags of a page that begin in a certain way. -/
def tagsFrom (start page : String) : List String :=
  (tags page).filter fun tag => start.toList.isPrefixOf tag.toList

end Page

end DisclosureRelay.Return
