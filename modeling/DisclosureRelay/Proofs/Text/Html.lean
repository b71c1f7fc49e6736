import DisclosureRelay.Text.Html
import Mathlib.Data.Bool.AllAny
import Mathlib.Data.List.Basic

/-!
# Escaping and its inverse

The five passes of `escapeChars` do what the single pass `escapeOnce` does: they go through a text
character by character, and no pass touches what an earlier one put in. This holds in every order of
the passes in which the ampersand comes first, and in no other (`afterPasses_eq_escapeOnce_iff`).
From the single pass it is read off that `unescape` gives the text back and that no quote,
apostrophe or angle bracket is left.
-/

namespace DisclosureRelay.Text.Html

/-- The characters that are never left as they are, apart from the ampersand, which begins the
entities. -/
def reserved : List Char := ['"', '\'', '<', '>']

/-- A pass over a text: the character it replaces and what it puts in. -/
structure Pass where
  char : Char
  entity : List Char
  deriving DecidableEq

/-- The five passes in their order. -/
def passes : List Pass :=
  [⟨'&', ampersand⟩, ⟨'<', less⟩, ⟨'>', greater⟩, ⟨'"', quote⟩, ⟨'\'', apostrophe⟩]

/-- A text after a row of passes. -/
def afterPasses (order : List Pass) (s : List Char) : List Char :=
  order.foldl (fun s pass => replaceAll pass.char pass.entity s) s

variable {c d : Char} {s : List Char} {pass : Pass} {order earlier later : List Pass}

/-! ## Passes -/

lemma replaceAll_append (c : Char) (entity s t : List Char) :
    replaceAll c entity (s ++ t) = replaceAll c entity s ++ replaceAll c entity t :=
  List.flatMap_append

lemma replaceAll_singleton (c : Char) (entity : List Char) : replaceAll c entity [c] = entity := by
  simp [replaceAll]

lemma replaceAll_eq_self (free : c ∉ s) (entity : List Char) : replaceAll c entity s = s := by
  induction s with
  | nil => rfl
  | cons d s ih =>
    obtain ⟨other, free⟩ := not_or.1 (mt List.mem_cons.2 free)
    rw [← List.singleton_append, replaceAll_append, ih free, replaceAll, List.flatMap_singleton,
      if_neg (Ne.symm other)]

lemma afterPasses_cons (pass : Pass) (order : List Pass) (s : List Char) :
    afterPasses (pass :: order) s = afterPasses order (replaceAll pass.char pass.entity s) :=
  rfl

lemma afterPasses_append (order : List Pass) (s t : List Char) :
    afterPasses order (s ++ t) = afterPasses order s ++ afterPasses order t := by
  induction order generalizing s t with
  | nil => rfl
  | cons pass order ih =>
    rw [afterPasses_cons, replaceAll_append, ih]
    rfl

/-- Passes do not touch a text without their characters. -/
lemma afterPasses_eq_self (free : ∀ pass ∈ order, pass.char ∉ s) : afterPasses order s = s := by
  induction order with
  | nil => rfl
  | cons pass order ih =>
    obtain ⟨free, later⟩ := List.forall_mem_cons.1 free
    rw [afterPasses_cons, replaceAll_eq_self free, ih later]

lemma afterPasses_split (s : List Char) :
    afterPasses (earlier ++ pass :: later) s =
      afterPasses later (replaceAll pass.char pass.entity (afterPasses earlier s)) := by
  rw [afterPasses, List.foldl_append]
  rfl

/-! ## Orders of the passes -/

/-- The only character of a pass that stands in entities is the ampersand. -/
lemma not_mem_entity_of_pass :
    ∀ pass ∈ passes, ∀ other ∈ passes.tail, other.char ∉ pass.entity := by decide

lemma entity_of_pass : ∀ pass ∈ passes, entity pass.char = pass.entity := by decide

lemma entity_of_no_pass (other : ∀ pass ∈ passes, pass.char ≠ c) : entity c = [c] := by
  unfold entity
  split <;> simp_all [passes]

/-- No two passes replace one character. -/
lemma char_ne_of_earlier (perm : (earlier ++ pass :: later).Perm passes) :
    ∀ other ∈ earlier, other.char ≠ pass.char := by
  have nodup : ((earlier ++ pass :: later).map Pass.char).Nodup :=
    (perm.map Pass.char).nodup_iff.2 (by decide)
  intro other mem same
  rw [List.map_append, List.nodup_append] at nodup
  exact nodup.2.2 _ (List.mem_map_of_mem mem) _ List.mem_cons_self same

section first
variable (perm : order.Perm passes) (first : order.head? = some ⟨'&', ampersand⟩)
include perm first

/-- Behind the first pass of an order there are the other four. -/
lemma mem_tail_of_later (split : order = earlier ++ pass :: later) :
    ∀ other ∈ later, other ∈ passes.tail := by
  obtain ⟨rest, rfl⟩ := List.head?_eq_some_iff.1 first
  intro other mem
  refine (List.Perm.cons_inv perm).mem_iff.1 ?_
  cases earlier with
  | nil =>
    obtain ⟨-, rfl⟩ := List.cons.inj split
    exact mem
  | cons head earlier =>
    obtain ⟨-, rfl⟩ := List.cons.inj split
    exact List.mem_append_right _ (List.mem_cons_of_mem _ mem)

/-- What a pass put in stays as it is in the later ones. -/
lemma afterPasses_entity (split : order = earlier ++ pass :: later) :
    afterPasses later pass.entity = pass.entity := by
  have mem : pass ∈ order := split ▸ List.mem_append_right _ List.mem_cons_self
  have behind := mem_tail_of_later perm first split
  exact afterPasses_eq_self fun other later =>
    not_mem_entity_of_pass pass (perm.mem_iff.1 mem) other (behind other later)

/-- One character goes through the passes: only the one that is meant for it changes it. -/
lemma afterPasses_singleton (c : Char) : afterPasses order [c] = entity c := by
  by_cases meant : ∃ pass ∈ order, pass.char = c
  · obtain ⟨pass, mem, rfl⟩ := meant
    obtain ⟨earlier, later, split⟩ := List.append_of_mem mem
    have kept : afterPasses earlier [pass.char] = [pass.char] :=
      afterPasses_eq_self fun other mem same =>
        char_ne_of_earlier (split ▸ perm) other mem (List.mem_singleton.1 same)
    have put := afterPasses_entity perm first split
    rw [split, afterPasses_split, kept, replaceAll_singleton, put,
      entity_of_pass pass (perm.mem_iff.1 mem)]
  · have other (pass) (mem : pass ∈ order) : pass.char ≠ c := fun same => meant ⟨pass, mem, same⟩
    rw [entity_of_no_pass fun pass mem => other pass (perm.mem_iff.2 mem)]
    exact afterPasses_eq_self fun pass mem same => other pass mem (List.mem_singleton.1 same)

/-- The passes over the whole text are one pass over its characters. -/
lemma afterPasses_eq_escapeOnce (s : List Char) : afterPasses order s = escapeOnce s := by
  induction s with
  | nil => exact afterPasses_eq_self fun _ _ => List.not_mem_nil
  | cons c s ih =>
    rw [← List.singleton_append, afterPasses_append, afterPasses_singleton perm first, ih]
    rfl

end first

/-- A pass that comes before the one for ampersands has its entity escaped once more. -/
lemma afterPasses_of_early (perm : (pass :: order).Perm passes) (early : pass ≠ ⟨'&', ampersand⟩) :
    afterPasses (pass :: order) [pass.char] ≠ entity pass.char := by
  have again : ∀ pass ∈ passes, pass ≠ ⟨'&', ampersand⟩ →
      replaceAll '&' ampersand pass.entity ≠ pass.entity ∧
        ∀ other ∈ passes.tail, other.char ∉ replaceAll '&' ampersand pass.entity := by decide
  have mem := perm.mem_iff.1 List.mem_cons_self
  obtain ⟨grown, untouched⟩ := again pass mem early
  have behind : ⟨'&', ampersand⟩ ∈ order :=
    (List.mem_cons.1 (perm.mem_iff.2 List.mem_cons_self)).resolve_left (Ne.symm early)
  obtain ⟨earlier, later, rfl⟩ := List.append_of_mem behind
  have others : (pass :: earlier ++ later).Perm passes.tail :=
    List.Perm.cons_inv (List.perm_middle.symm.trans perm)
  -- of the passes that follow only the one for ampersands changes the entity, and those behind it
  -- find nothing in what it made
  have kept : afterPasses earlier pass.entity = pass.entity :=
    afterPasses_eq_self fun other before => not_mem_entity_of_pass pass mem other <|
      others.mem_iff.1 (List.mem_append_left _ (List.mem_cons_of_mem _ before))
  have whole : afterPasses later (replaceAll '&' ampersand pass.entity)
      = replaceAll '&' ampersand pass.entity :=
    afterPasses_eq_self fun other after =>
      untouched other (others.mem_iff.1 (List.mem_append_right _ after))
  have twice : afterPasses (pass :: (earlier ++ ⟨'&', ampersand⟩ :: later)) [pass.char]
      = replaceAll '&' ampersand pass.entity := by
    rw [afterPasses_cons, replaceAll_singleton, afterPasses_split, kept, whole]
  rw [twice, entity_of_pass pass mem]
  exact grown

/-- An order of the passes does what the single pass does exactly if the ampersand comes first. -/
theorem afterPasses_eq_escapeOnce_iff (perm : order.Perm passes) :
    (∀ s, afterPasses order s = escapeOnce s) ↔ order.head? = some ⟨'&', ampersand⟩ := by
  constructor
  · intro same
    cases order with
    | nil => exact absurd perm.length_eq (by decide)
    | cons pass order =>
      by_contra late
      have early : pass ≠ ⟨'&', ampersand⟩ := fun eq => late (congrArg some eq)
      refine afterPasses_of_early perm early ((same [pass.char]).trans ?_)
      exact List.flatMap_singleton entity _
  · exact fun first => afterPasses_eq_escapeOnce perm first

/-- The five passes over the whole text are one pass over its characters. -/
lemma escapeChars_eq_escapeOnce (s : List Char) : escapeChars s = escapeOnce s :=
  afterPasses_eq_escapeOnce (.refl passes) rfl s

/-! ## The inverse -/

lemma unescape_entity_append (c : Char) (rest : List Char) :
    unescape (entity c ++ rest) = c :: unescape rest := by
  unfold entity
  split
  · rfl
  · rfl
  · rfl
  · rfl
  · rfl
  · next other _ _ _ _ =>
    rw [List.singleton_append, unescape]
    all_goals simp_all

/-- The entities are undone one after the other. -/
lemma unescape_escapeChars (s : List Char) : unescape (escapeChars s) = s := by
  rw [escapeChars_eq_escapeOnce]
  induction s with
  | nil => rfl
  | cons c s ih =>
    rw [escapeOnce, List.flatMap_cons, unescape_entity_append, ← escapeOnce, ih]

lemma not_mem_entity (c : Char) : ∀ d ∈ reserved, d ∉ entity c := by
  have notMem {s : List Char} (all : reserved.all fun d => d ∉ s) : ∀ d ∈ reserved, d ∉ s :=
    List.all_iff_forall_prop.1 all
  unfold entity
  split
  · exact notMem (by decide)
  · exact notMem (by decide)
  · exact notMem (by decide)
  · exact notMem (by decide)
  · exact notMem (by decide)
  · intro d reserve mem
    obtain rfl := List.mem_singleton.1 mem
    simp_all [reserved]

/-- A text that was escaped holds none of the characters that are escaped. -/
lemma not_mem_escapeChars (reserve : d ∈ reserved) (s : List Char) : d ∉ escapeChars s := by
  rw [escapeChars_eq_escapeOnce, escapeOnce, List.mem_flatMap]
  rintro ⟨c, -, mem⟩
  exact not_mem_entity c d reserve mem

/-! ## Escaped texts -/

lemma toList_escape (text : String) : (escape text).toList = escapeOnce text.toList := by
  rw [escape, String.toList_ofList, escapeChars_eq_escapeOnce]

lemma escape_append (text other : String) :
    escape (text ++ other) = escape text ++ escape other := by
  refine String.ext ?_
  simp only [String.toList_append, toList_escape, escapeOnce, List.flatMap_append]

/-- The five passes over a text come to one pass over its characters, so that a text that was put
together is escaped part by part. What a pass put in stays as it is in all later passes, wherever it
stands. In another order the passes do the same exactly if the ampersand comes first there, too. -/
theorem escape_in_one_pass (text : String) :
    (escape text).toList = escapeOnce text.toList ∧
      (∀ other, escape (text ++ other) = escape text ++ escape other) ∧
      (escape text).toList = afterPasses passes text.toList ∧
      (∀ earlier pass later, passes = earlier ++ pass :: later → ∀ s t,
        afterPasses later (s ++ pass.entity ++ t) =
          afterPasses later s ++ pass.entity ++ afterPasses later t) ∧
      ∀ order : List Pass, order.Perm passes →
        ((∀ s, afterPasses order s = escapeOnce s) ↔ order.head? = some ⟨'&', ampersand⟩) := by
  refine ⟨toList_escape text, escape_append text, ?_, fun earlier pass later split s t => ?_,
    fun order perm => afterPasses_eq_escapeOnce_iff perm⟩
  · rw [toList_escape, afterPasses_eq_escapeOnce (.refl passes) rfl]
  · rw [afterPasses_append, afterPasses_append, afterPasses_entity (.refl passes) rfl split]

end DisclosureRelay.Text.Html
