import DisclosureRelay.Proofs.Text.Html
import DisclosureRelay.Return.Page

/-!
# The page gives its form back

A page is read piece by piece. `values_tagAttribute` reads one attribute and `tags_tag` one tag,
whatever stands behind them, and texts without quotes or without brackets are passed over. No text
that was escaped holds one of these characters, so that `page_of_form` finds the form again, and in
the page the tags and the reserved characters of the template and no others.
-/

namespace DisclosureRelay.Return

open Text.Html (escape reserved tag tagAttribute)

/-- The brackets of tags. -/
def brackets : List Char := ['<', '>']

lemma brackets_subset : brackets ⊆ reserved := by decide

/-- A character does not occur in a text. -/
def Free (c : Char) (text : String) : Prop :=
  c ∉ text.toList

variable {c : Char} {text other : String}

namespace Free

lemma of_chars {s : List Char} (free : c ∉ s) : Free c (String.ofList s) := by
  rwa [Free, String.toList_ofList]

lemma append (free : Free c text) (free' : Free c other) : Free c (text ++ other) := by
  rw [Free, String.toList_append, List.mem_append]
  exact not_or_intro free free'

lemma escape (reserve : c ∈ reserved) (text : String) : Free c (escape text) :=
  of_chars (Text.Html.not_mem_escapeChars reserve text.toList)

lemma of_brackets {s : List Char} (bracket : c ∈ brackets)
    (free : brackets.all fun d => d ∉ s) : Free c (String.ofList s) :=
  of_chars (List.all_iff_forall_prop.1 free c bracket)

lemma tagAttribute (bracket : c ∈ brackets) (free : Free c text) (free' : Free c other) :
    Free c (tagAttribute text other) := by
  refine append (append (append (append ?_ free) ?_) free') ?_
  · exact of_brackets bracket (by decide)
  · exact of_brackets bracket (by decide)
  · exact of_brackets bracket (by decide)

end Free

namespace Page

variable {front inside name value rest : String}

/-- A text is cut at every occurrence of a character. -/
lemma splitOn_cut (c : Char) (s t : List Char) :
    (s ++ c :: t).splitOn c = s.splitOn c ++ t.splitOn c :=
  List.splitOnP_append_cons s t (beq_self_eq_true c)

/-- Characters that are not cut at only lengthen the first piece of what follows them. -/
lemma splitOn_front {s : List Char} (free : c ∉ s) (t : List Char) :
    (s ++ t).splitOn c = (t.splitOn c).modifyHead (s ++ ·) := by
  induction s with
  | nil => cases h : t.splitOn c <;> simp [h]
  | cons d s ih =>
    have other : (d == c) = false := beq_false_of_ne fun same => free (same ▸ List.mem_cons_self)
    have ih := ih fun mem => free (List.mem_cons_of_mem d mem)
    rw [List.cons_append, List.splitOn, List.splitOnP_cons_eq_if_modifyHead, other, ← List.splitOn,
      ih, if_neg Bool.false_ne_true, List.modifyHead_modifyHead]
    rfl

/-- The values of the attributes of a page, as they stand between their quotes. -/
def values (page : String) : List (List Char) :=
  quotedPieces (page.toList.splitOn '"')

/-- A text without quotes is passed over. -/
lemma values_front (free : Free '"' front) : values (front ++ rest) = values rest := by
  rw [values, String.toList_append, splitOn_front free, values]
  rcases rest.toList.splitOn '"' with _ | ⟨_, _ | ⟨_, _⟩⟩ <;> rfl

/-- An attribute is read. -/
lemma values_tagAttribute (free : Free '"' name) (free' : Free '"' value) :
    values (tagAttribute name value ++ rest) = value.toList :: values rest := by
  have text : (tagAttribute name value ++ rest).toList
      = (' ' :: name.toList ++ ['=']) ++ '"' :: (value.toList ++ '"' :: rest.toList) := by
    simp [tagAttribute]
  have named : '"' ∉ ' ' :: name.toList ++ ['='] := by
    simpa [Free] using free
  have whole {s : List Char} (free : '"' ∉ s) : s.splitOn '"' = [s] := by
    simpa using splitOn_front free []
  rw [values, text, splitOn_cut, splitOn_cut, whole named, whole free']
  rfl

/-- A text without brackets is passed over. -/
lemma tags_front (free : Free '<' front) : tags (front ++ rest) = tags rest := by
  rw [tags, String.toList_append, splitOn_front free, tags]
  rcases rest.toList.splitOn '<' with _ | _ <;> rfl

/-- A tag is read, whatever stands in front of it. -/
lemma tags_tag (free : Free '<' inside) (free' : Free '>' inside) :
    tags (front ++ (tag inside ++ rest)) = tags front ++ inside :: tags rest := by
  have text : (front ++ (tag inside ++ rest)).toList
      = front.toList ++ '<' :: ((inside.toList ++ ['>']) ++ rest.toList) := by
    simp [tag]
  have closed : '<' ∉ inside.toList ++ ['>'] := by
    simpa [Free] using free
  have read (piece : List Char) :
      (inside.toList ++ '>' :: piece).takeWhile (· ≠ '>') = inside.toList := by
    have inner (c) (mem : c ∈ inside.toList) : decide (c ≠ '>') = true :=
      decide_eq_true fun same => free' (same ▸ mem)
    rw [List.takeWhile_append_of_pos inner]
    simp
  have pieces (s : List Char) : ∃ first others, s.splitOn '<' = first :: others :=
    List.exists_cons_of_ne_nil (List.splitOnP_ne_nil _ s)
  obtain ⟨_, _, before⟩ := pieces front.toList
  obtain ⟨_, _, behind⟩ := pieces rest.toList
  rw [tags, text, splitOn_cut, splitOn_front closed, tags, tags, before, behind]
  simpa using congrArg String.ofList (read _)

/-- A page without quotes has no attributes. -/
lemma values_of_free (free : Free '"' text) : values text = [] := by
  have alone : values (text ++ "") = values "" := values_front free
  rwa [String.append_empty] at alone

/-- A page without brackets has no tags. -/
lemma tags_of_free (free : Free '<' text) : tags text = [] := by
  have alone : tags (text ++ "") = tags "" := tags_front free
  rwa [String.append_empty] at alone

/-- What the attributes of a field hold. -/
def fieldValues (field : String × String) : List (List Char) :=
  ["hidden".toList, (escape field.1).toList, (escape field.2).toList]

/-- The lines of the fields hold the fields, one after the other. -/
lemma values_inputLines (fields : List (String × String)) (rest : String) :
    values (String.join (fields.map inputLine) ++ rest)
      = fields.flatMap fieldValues ++ values rest := by
  have quote : '"' ∈ reserved := by decide
  induction fields with
  | nil => simp
  | cons field fields ih =>
    rw [List.map_cons, String.join_cons, List.flatMap_cons, List.append_assoc, ← ih]
    unfold inputLine inputTag tag
    simp (disch := first
      | with_reducible exact Free.escape quote _
      | (with_reducible apply Free.of_chars); decide) only
      [String.append_assoc, values_front, values_tagAttribute]
    rfl

/-- The attributes of a page, in the order in which they stand there. -/
lemma values_page (form : Form) :
    values form.page =
      "document.forms[0].submit()".toList :: "post".toList :: (escape form.action).toList ::
        (form.fields.flatMap fieldValues ++ ["submit".toList, "Continue".toList]) := by
  have quote : '"' ∈ reserved := by decide
  unfold Form.page pageHead pageTail formTag tag
  simp (disch := first
    | with_reducible exact Free.escape quote _
    | (with_reducible apply Free.of_chars); decide) only
    [String.append_assoc, values_front, values_tagAttribute, values_inputLines, values_of_free]

lemma attributeText_escape (text : String) : attributeText (escape text).toList = text := by
  rw [attributeText, escape, String.toList_ofList, Text.Html.unescape_escapeChars,
    String.ofList_toList]

/-- The fields are read up to the first input that is not hidden. -/
lemma hiddenFields_fieldValues (fields : List (String × String)) :
    hiddenFields (fields.flatMap fieldValues ++ ["submit".toList, "Continue".toList]) = fields := by
  induction fields with
  | nil => rfl
  | cons field fields ih =>
    simp only [List.flatMap_cons, fieldValues, List.cons_append, List.nil_append, hiddenFields,
      if_true, attributeText_escape]
    rw [ih]

/-- The tag of a form holds no brackets. -/
lemma free_formTag (bracket : c ∈ brackets) (action : String) : Free c (formTag action) := by
  refine Free.append (Free.append ?_ ?_) ?_
  · exact Free.of_brackets bracket (by decide)
  · refine Free.tagAttribute bracket ?_ ?_
    · exact Free.of_brackets bracket (by decide)
    · exact Free.of_brackets bracket (by decide)
  · refine Free.tagAttribute bracket ?_ (Free.escape (brackets_subset bracket) action)
    exact Free.of_brackets bracket (by decide)

/-- The tag of a field holds no brackets. -/
lemma free_inputTag (bracket : c ∈ brackets) (field : String × String) :
    Free c (inputTag field) := by
  refine Free.append (Free.append (Free.append (Free.append ?_ ?_) ?_) ?_) ?_
  · exact Free.of_brackets bracket (by decide)
  · refine Free.tagAttribute bracket ?_ ?_
    · exact Free.of_brackets bracket (by decide)
    · exact Free.of_brackets bracket (by decide)
  · refine Free.tagAttribute bracket ?_ (Free.escape (brackets_subset bracket) field.1)
    exact Free.of_brackets bracket (by decide)
  · refine Free.tagAttribute bracket ?_ (Free.escape (brackets_subset bracket) field.2)
    exact Free.of_brackets bracket (by decide)
  · exact Free.of_brackets bracket (by decide)

/-- The tags of the fields stand one after the other. -/
lemma tags_inputLines (fields : List (String × String)) (rest : String) :
    tags (String.join (fields.map inputLine) ++ rest) = fields.map inputTag ++ tags rest := by
  induction fields with
  | nil => simp
  | cons field fields ih =>
    rw [List.map_cons, String.join_cons, List.map_cons, List.cons_append, ← ih, inputLine]
    simp only [String.append_assoc]
    rw [tags_tag (free_inputTag (by decide) _) (free_inputTag (by decide) _),
      tags_of_free (Free.of_chars (by decide)), tags_front (Free.of_chars (by decide))]
    rfl

/-- The tags of a page are those of the template, with one for the form and one for each field. -/
lemma tags_page (form : Form) :
    tags form.page =
      tags pageHead ++ formTag form.action :: (form.fields.map inputTag ++ tags pageTail) := by
  unfold Form.page
  simp only [String.append_assoc]
  rw [tags_tag (free_formTag (by decide) _) (free_formTag (by decide) _),
    tags_front (Free.of_chars (by decide)), tags_inputLines]

/-- The tags of a literal that begin in a certain way. -/
lemma tagsFrom_ofList (start s : List Char) :
    tagsFrom (String.ofList start) (String.ofList s)
      = ((((s.splitOn '<').drop 1).map (·.takeWhile (· ≠ '>'))).filter
          (start.isPrefixOf ·)).map String.ofList := by
  rw [tagsFrom, tags, String.toList_ofList, String.toList_ofList, List.filter_map,
    List.filter_map, List.map_map]
  simp only [Function.comp_def, String.toList_ofList]

/-- The template has no form of its own and no hidden inputs. -/
lemma tagsFrom_template :
    (tagsFrom "form" pageHead = [] ∧ tagsFrom "form" pageTail = []) ∧
      tagsFrom "input type=\"hidden\"" pageHead = [] ∧
      tagsFrom "input type=\"hidden\"" pageTail = [] := by
  unfold pageHead pageTail tag tagAttribute
  -- a literal that was put together is read by its characters
  repeat rw [← String.ofList_append]
  iterate 4 rw [tagsFrom_ofList]
  exact ⟨⟨rfl, rfl⟩, rfl, rfl⟩

lemma formTag_starts (action : String) :
    "form".toList.isPrefixOf (formTag action).toList = true ∧
      "input type=\"hidden\"".toList.isPrefixOf (formTag action).toList = false := by
  unfold formTag
  simp [List.isPrefixOf]

lemma inputTag_starts (field : String × String) :
    "form".toList.isPrefixOf (inputTag field).toList = false ∧
      "input type=\"hidden\"".toList.isPrefixOf (inputTag field).toList = true := by
  unfold inputTag tagAttribute
  simp [List.isPrefixOf]

/-- Of the tags of a page one is a form, and the hidden inputs are those of the fields. -/
lemma tagsFrom_page (form : Form) :
    tagsFrom "form" form.page = [formTag form.action] ∧
      tagsFrom "input type=\"hidden\"" form.page = form.fields.map inputTag := by
  obtain ⟨⟨formHead, formTail⟩, inputHead, inputTail⟩ := tagsFrom_template
  simp only [tagsFrom] at formHead formTail inputHead inputTail
  simp only [tagsFrom, tags_page, List.filter_append, List.filter_cons, formTag_starts, formHead,
    formTail, inputHead, inputTail, List.filter_map, Function.comp_def, inputTag_starts]
  simp

lemma decode_page (form : Form) : decode form.page = some form := by
  have values := values_page form
  rw [Page.values] at values
  rw [decode, values]
  simp only [attributeText_escape, hiddenFields_fieldValues]

end Page

/-- The form of the same shape in which nothing is said. -/
def Form.blank (form : Form) : Form :=
  { action := "", fields := form.fields.map fun _ => ("", "") }

lemma count_escape (reserve : c ∈ reserved) (text : String) :
    (escape text).toList.count c = 0 :=
  List.count_eq_zero.2 (Free.escape reserve text)

lemma count_formTag (reserve : c ∈ reserved) (action : String) :
    (formTag action).toList.count c = (formTag "").toList.count c := by
  simp only [formTag, tagAttribute, String.toList_append, List.count_append, count_escape reserve]

lemma count_inputLine (reserve : c ∈ reserved) (field : String × String) :
    (inputLine field).toList.count c = (inputLine ("", "")).toList.count c := by
  simp only [inputLine, tag, inputTag, tagAttribute, String.toList_append, List.count_append,
    count_escape reserve]

/-- What a form says adds none of the reserved characters to its page. -/
lemma count_page (reserve : c ∈ reserved) (form : Form) :
    form.page.toList.count c = form.blank.page.toList.count c := by
  have lines (fields : List (String × String)) :
      (String.join (fields.map inputLine)).toList.count c
        = (String.join ((fields.map fun _ => ("", "")).map inputLine)).toList.count c := by
    induction fields with
    | nil => rfl
    | cons field fields ih =>
      simp only [List.map_cons, String.join_cons, String.toList_append, List.count_append,
        count_inputLine reserve field, ih]
  simp only [Form.page, tag, String.toList_append, List.count_append]
  rw [lines form.fields, count_formTag reserve form.action]
  rfl

/-- A form is read back from its page, whatever it says, so that two forms never have the same page.
The page has one form and one hidden input for each field, and of the reserved characters it has
those of the template and no others. -/
theorem page_of_form (form : Form) :
    Page.decode form.page = some form ∧
      (∀ other : Form, other.page = form.page ↔ other = form) ∧
      Page.tagsFrom "form" form.page = [formTag form.action] ∧
      Page.tagsFrom "input type=\"hidden\"" form.page = form.fields.map inputTag ∧
      ∀ c ∈ ['"', '\'', '<', '>'],
        form.page.toList.count c = form.blank.page.toList.count c := by
  obtain ⟨forms, inputs⟩ := Page.tagsFrom_page form
  refine ⟨Page.decode_page form, fun other => ⟨fun same => ?_, congrArg Form.page⟩, forms, inputs,
    fun c reserve => count_page reserve form⟩
  have decoded := Page.decode_page other
  rw [same, Page.decode_page form] at decoded
  exact (Option.some.inj decoded).symm

end DisclosureRelay.Return
