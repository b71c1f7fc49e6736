import DisclosureRelay.Session.Address
import Mathlib.Data.List.DropRight

/-!
# Ids of session addresses

The search for the id of a session finds what `Names` says: an address that ends in the path segment
and an id. `search?_eq_some` says what the search finds in a text, `names_iff` that an address names
no other id than the text behind its last slash, and `id_of_address` ties both together.
-/

namespace DisclosureRelay.Session

/-- The text behind the last slash, the whole text if there is none. -/
def behindLastSlash (text : String) : String :=
  String.ofList (text.toList.rtakeWhile (· ≠ '/'))

variable {s i : List Char} {address name : String}

/-- A text without a slash is all that stands behind the last slash in front of it. -/
lemma rtakeWhile_of_slash (before : List Char) (slashless : '/' ∉ i) :
    (before ++ '/' :: i).rtakeWhile (· ≠ '/') = i := by
  have all : ∀ c ∈ i.reverse, decide (c ≠ '/') = true := fun c mem =>
    decide_eq_true fun same => slashless (same ▸ List.mem_reverse.1 mem)
  have backward : (before ++ '/' :: i).reverse = i.reverse ++ '/' :: before.reverse := by simp
  rw [List.rtakeWhile, backward, List.takeWhile_append_of_pos all]
  simp

/-- The path segment ends in a slash, so that an id behind it stands behind the last one. -/
lemma rtakeWhile_of_segment (before : List Char) (slashless : '/' ∉ i) :
    (before ++ pathSegment.toList ++ i).rtakeWhile (· ≠ '/') = i := by
  have segment : pathSegment.toList = "irma/session".toList ++ ['/'] := by decide
  have split : before ++ pathSegment.toList ++ i
      = (before ++ "irma/session".toList) ++ '/' :: i := by simp [segment]
  rw [split, rtakeWhile_of_slash _ slashless]

/-- The id at the front of a text is what follows the path segment. -/
lemma idAt?_eq_some :
    idAt? s = some i ↔ s = pathSegment.toList ++ i ∧ i ≠ [] ∧ '/' ∉ i := by
  unfold idAt?
  simp only [List.isPrefixOf_iff_prefix, Option.ite_none_right_eq_some, Option.some.injEq]
  constructor
  · rintro ⟨⟨⟨rest, rfl⟩, given, slashless⟩, rfl⟩
    rw [List.drop_left] at given slashless ⊢
    exact ⟨rfl, given, slashless⟩
  · rintro ⟨rfl, given, slashless⟩
    rw [List.drop_left]
    exact ⟨⟨List.prefix_append _ _, given, slashless⟩, rfl⟩

/-- The search stops at the front of a text if there is an id. -/
lemma search?_of_idAt? (here : idAt? s = some i) : search? s = some i := by
  cases s with
  | nil =>
    obtain ⟨text, given, -⟩ := idAt?_eq_some.1 here
    exact absurd (List.append_eq_nil_iff.1 text.symm).2 given
  | cons c rest => rw [search?, here]

/-- The search finds an id in a text that ends in one. Which place it stops at does not matter: the
id is always the text behind the last slash. -/
lemma search?_of_segment (before : List Char) (given : i ≠ []) (slashless : '/' ∉ i) :
    search? (before ++ pathSegment.toList ++ i) = some i := by
  induction before with
  | nil => exact search?_of_idAt? (idAt?_eq_some.2 ⟨rfl, given, slashless⟩)
  | cons c before ih =>
    have last := rtakeWhile_of_segment (c :: before) slashless
    simp only [List.cons_append] at last ⊢
    cases here : idAt? (c :: (before ++ pathSegment.toList ++ i)) with
    | none => rw [search?, here, ih]
    | some other =>
      obtain ⟨text, -, slashless'⟩ := idAt?_eq_some.1 here
      rw [text, ← List.nil_append pathSegment.toList, rtakeWhile_of_segment [] slashless'] at last
      rw [search?_of_idAt? here, last]

/-- What the search finds is what a text ends in. -/
lemma search?_eq_some :
    search? s = some i ↔ (∃ before, s = before ++ pathSegment.toList ++ i) ∧ i ≠ [] ∧ '/' ∉ i := by
  constructor
  · intro found
    induction s with
    | nil => cases found
    | cons c rest ih =>
      rw [search?] at found
      split at found
      · next here =>
        obtain rfl := Option.some.inj found
        obtain ⟨text, holds⟩ := idAt?_eq_some.1 here
        exact ⟨⟨[], text⟩, holds⟩
      · obtain ⟨⟨before, rfl⟩, holds⟩ := ih found
        exact ⟨⟨c :: before, rfl⟩, holds⟩
  · rintro ⟨⟨before, rfl⟩, given, slashless⟩
    exact search?_of_segment before given slashless

lemma id?_eq_some : id? address = some name ↔ Names address name := by
  unfold id? Names
  rw [Option.map_eq_some_iff]
  constructor
  · rintro ⟨i, found, rfl⟩
    obtain ⟨⟨before, text⟩, given, slashless⟩ := search?_eq_some.1 found
    refine ⟨by simpa using given, by simpa using slashless, String.ofList before, ?_⟩
    exact String.ext (by simp [text])
  · rintro ⟨given, slashless, front, rfl⟩
    refine ⟨name.toList, search?_eq_some.2 ⟨⟨front.toList, by simp⟩, ?_, slashless⟩, by simp⟩
    simpa using given

lemma id_eq_ok : Session.id address = .ok name ↔ Names address name := by
  rw [← id?_eq_some, Session.id]
  cases id? address <;> simp

/-- An address names no other id than the text behind its last slash, and in front of that id it can
be read in one way only. -/
lemma names_iff :
    Names address name ↔
      name = behindLastSlash address ∧ name ≠ "" ∧
        ∃! front, address = front ++ pathSegment ++ name := by
  constructor
  · rintro ⟨given, slashless, front, text⟩
    refine ⟨?_, given, front, text, fun other text' => ?_⟩
    · rw [behindLastSlash, text, String.toList_append, String.toList_append,
        rtakeWhile_of_segment _ slashless, String.ofList_toList]
    · have same := congrArg String.toList (text'.symm.trans text)
      simp only [String.toList_append] at same
      exact String.ext (List.append_cancel_right (List.append_cancel_right same))
  · rintro ⟨rfl, given, front, text, -⟩
    refine ⟨given, fun slash => ?_, front, text⟩
    simp only [behindLastSlash, String.toList_ofList] at slash
    simpa using List.mem_rtakeWhile_imp slash

/-- The id of an address is found exactly if the address ends in the path segment and an id that is
not empty and has no slash. That id is the text behind the last slash and the text in front of the
segment is the only one there can be; any other address is a fault of the configuration. -/
theorem id_of_address (address : String) :
    (∀ name, Session.id address = .ok name ↔
      name ≠ "" ∧ '/' ∉ name.toList ∧ ∃ front, address = front ++ "irma/session/" ++ name) ∧
      (∀ name, Session.id address = .ok name ↔
        name = behindLastSlash address ∧ name ≠ "" ∧
          ∃! front, address = front ++ "irma/session/" ++ name) ∧
      (Session.id address = .error (.configuration
          ("Session pointer does not contain irma/session/<id>: " ++ address)) ↔
        ¬∃ name, Names address name) := by
  refine ⟨fun name => id_eq_ok, fun name => id_eq_ok.trans names_iff, ?_⟩
  simp only [← id?_eq_some, Session.id]
  cases id? address with
  | none => simp [noId, pathSegment]
  | some name => simp

end DisclosureRelay.Session
