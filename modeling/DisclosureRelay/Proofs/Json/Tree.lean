import Mathlib.Tactic.Common
import DisclosureRelay.Json.Grammar

/-!
# The values of trees

A tree holds one value at most (`Holds.unique`). The values a tree can hold are ordered and nest no
deeper than the tree (`Holds.ordered`), and of the members of one name an object has the value of
the last one (`HoldsMembers.get?`).
-/

namespace DisclosureRelay.Json

mutual

/-- How deep the brackets of a value nest. -/
def depth : Json → Nat
  | .null | .bool _ | .number _ | .text _ => 0
  | .list items => itemsDepth items + 1
  | .object members => membersDepth members + 1

/-- How deep the brackets of the items nest. -/
def itemsDepth : List Json → Nat
  | [] => 0
  | item :: items => max item.depth (itemsDepth items)

/-- How deep the brackets of the members nest. -/
def membersDepth : List (String × Json) → Nat
  | [] => 0
  | (_, value) :: members => max value.depth (membersDepth members)

end

lemma Numeral.real_ne_integer (numeral : Numeral) (value : Int) :
    numeral.real ≠ .ok (.integer value) := by
  intro eq
  simp only [Numeral.real] at eq
  split at eq <;> cases eq

lemma Numeral.exact_of_number {numeral : Numeral} {value : Int}
    (value? : numeral.number = .ok (.integer value)) : Number.Exact value := by
  have powers : Int.pow 2 63 = (Nat.pow 2 63 : Nat) ∧ Int.pow 2 64 = (Nat.pow 2 64 : Nat) :=
    ⟨rfl, rfl⟩
  have order : Nat.pow 2 63 < Nat.pow 2 64 := by decide
  have real := numeral.real_ne_integer value
  simp only [Numeral.number] at value?
  split at value?
  · exact absurd value? real
  · split at value?
    · split at value?
      · cases value?
        constructor <;> omega
      · exact absurd value? real
    · split at value?
      · cases value?
        constructor <;> omega
      · exact absurd value? real

/-- The numerals of counts have no sign, no fraction and no exponent. -/
lemma Numeral.number_eq_natural {numeral : Numeral} {value : Nat} :
    numeral.number = .ok (.integer value) ↔ (Tree.number numeral).IsNatural value := by
  constructor
  · intro value?
    have real := numeral.real_ne_integer value
    obtain ⟨negative, whole, fraction, exponent⟩ := numeral
    simp only [Numeral.number] at value?
    split at value?
    · exact absurd value? real
    · next plain =>
      simp only [not_or, Bool.not_eq_true, Option.isSome_eq_false_iff, Option.isNone_iff_eq_none]
        at plain
      obtain ⟨rfl, rfl⟩ := plain
      split at value?
      · split at value?
        · next inside =>
          have least := inside.1
          simp only [Except.ok.injEq, Number.integer.injEq] at value?
          omega
        · exact absurd value? real
      · next positive =>
        split at value?
        · next inside =>
          simp only [Except.ok.injEq, Number.integer.injEq, Int.natCast_inj] at value?
          subst value?
          rw [Bool.not_eq_true] at positive
          exact ⟨whole, by rw [positive], rfl, inside⟩
        · exact absurd value? real
  · rintro ⟨whole, ⟨⟩, rfl, inside⟩
    simp [Numeral.number, inside]

lemma orderedMembers_iff {members : Members} :
    OrderedMembers members ↔ ∀ member ∈ members, member.2.Ordered := by
  induction members with
  | nil => simp [OrderedMembers]
  | cons member members ih => simp [OrderedMembers, ih]

lemma membersDepth_le {members : Members} {deep : Nat} :
    membersDepth members ≤ deep ↔ ∀ member ∈ members, member.2.depth ≤ deep := by
  induction members with
  | nil => simp [membersDepth]
  | cons member members ih => rw [membersDepth, Nat.max_le, ih, List.forall_mem_cons]

namespace Tree

/-- The last member of a name. -/
def last? (members : List (String × Tree)) (name : String) : Option Tree :=
  (members.findRev? (·.1 = name)).map (·.2)

lemma last?_cons (other : String) (tree : Tree) (members : List (String × Tree)) (name : String) :
    last? ((other, tree) :: members) name =
      (last? members name).or (if other = name then some tree else none) := by
  simp only [last?, List.findRev?, decide_eq_true_eq]
  cases members.findRev? (·.1 = name) with
  | some later => rfl
  | none => by_cases eq : other = name <;> simp [eq]

lemma last?_mem {members : List (String × Tree)} {name : String} {tree : Tree}
    (last : last? members name = some tree) : (name, tree) ∈ members := by
  induction members with
  | nil => cases last
  | cons member members ih =>
    obtain ⟨other, item⟩ := member
    rw [last?_cons, Option.or_eq_some_iff] at last
    rcases last with later | ⟨-, first⟩
    · exact List.mem_cons_of_mem _ (ih later)
    · split at first
      · next eq =>
        cases first
        rw [eq]
        exact List.mem_cons_self
      · cases first

/-- Members of other names do not matter for the last one of a name. -/
lemma last?_filter (kept : String × Tree → Bool) (members : List (String × Tree)) {name : String}
    (all : ∀ tree, kept (name, tree)) : last? (members.filter kept) name = last? members name := by
  induction members with
  | nil => rfl
  | cons member members ih =>
    obtain ⟨other, tree⟩ := member
    rw [List.filter_cons]
    split
    · rw [last?_cons, last?_cons, ih]
    · next dropped =>
      have ne : other ≠ name := by
        rintro rfl
        exact dropped (all tree)
      rw [last?_cons, ih, if_neg ne, Option.or_none]

/-- Where no name is repeated, every member is the last one of its name. -/
lemma last?_eq_some_of_nodup {members : List (String × Tree)} {name : String} {tree : Tree}
    (nodup : (members.map (·.1)).Nodup) :
    last? members name = some tree ↔ (name, tree) ∈ members := by
  induction members with
  | nil => simp [last?]
  | cons member members ih =>
    obtain ⟨other, item⟩ := member
    obtain ⟨fresh, nodup⟩ := List.nodup_cons.1 nodup
    rw [last?_cons, Option.or_eq_some_iff, ih nodup, List.mem_cons, Prod.mk.injEq]
    constructor
    · rintro (later | ⟨-, first⟩)
      · exact .inr later
      · split at first
        · next eq => exact .inl ⟨eq.symm, (Option.some.inj first).symm⟩
        · cases first
    · rintro (⟨rfl, rfl⟩ | later)
      · refine .inr ⟨?_, if_pos rfl⟩
        cases last : last? members name with
        | none => rfl
        | some later =>
          have mem := last?_mem last
          exact absurd (List.mem_map_of_mem (f := (·.1)) mem) fresh
      · exact .inl later

/-! ## At most one value -/

mutual

theorem Holds.unique : ∀ {tree : Tree} {value other : Json}, tree.Holds value →
    tree.Holds other → value = other
  | _, _, _, .null, .null => rfl
  | _, _, _, .bool _, .bool _ => rfl
  | _, _, _, .text _, .text _ => rfl
  | _, _, _, .number value?, .number other? => by
    rw [value?] at other?
    cases other?
    rfl
  | _, _, _, .list holds, .list holds' => congrArg Json.list (holds.unique holds')
  | _, _, _, .object holds, .object holds' => congrArg Json.object (holds.unique holds')

theorem HoldsItems.unique : ∀ {trees : List Tree} {values others : List Json},
    HoldsItems trees values → HoldsItems trees others → values = others
  | _, _, _, .nil, .nil => rfl
  | _, _, _, .cons first later, .cons first' later' => by
    rw [first.unique first', later.unique later']

theorem HoldsMembers.unique : ∀ {trees : List (String × Tree)} {held values others : Members},
    HoldsMembers held trees values → HoldsMembers held trees others → values = others
  | _, _, _, _, .nil _, .nil _ => rfl
  | _, _, _, _, .cons first later, .cons first' later' => by
    rw [first.unique first'] at later
    exact later.unique later'

end

/-! ## Members of one name -/

/-- An object has the value of the last member of a name. -/
theorem HoldsMembers.get? {trees : List (String × Tree)} {held values : Members}
    (holds : HoldsMembers held trees values) (name : String) :
    (∃ tree value, last? trees name = some tree ∧ tree.Holds value ∧
        values.get? name = some value) ∨
      (last? trees name = none ∧ values.get? name = held.get? name) := by
  induction trees generalizing held with
  | nil =>
    cases holds
    exact .inr ⟨rfl, rfl⟩
  | cons tree trees ih =>
    obtain _ | @⟨_, _, other, item, value, _, first, later⟩ := holds
    rw [last?_cons]
    rcases ih later with ⟨last, value', last?, holds', get?⟩ | ⟨none, get?⟩
    · exact .inl ⟨last, value', by rw [last?]; rfl, holds', get?⟩
    · rw [Members.get?_insert] at get?
      rw [none, Option.none_or]
      split at get?
      · exact .inl ⟨item, value, if_pos ‹_›, first, get?⟩
      · exact .inr ⟨if_neg ‹_›, get?⟩

/-! ## Order and depth -/

/-- The members of an object are in order, and each was read from a member of the tree. -/
lemma HoldsMembers.sorted {trees : List (String × Tree)} {held values : Members}
    (holds : HoldsMembers held trees values) (sorted : held.Sorted) :
    values.Sorted ∧ ∀ member ∈ values,
      member ∈ held ∨ ∃ tree ∈ trees, tree.1 = member.1 ∧ tree.2.Holds member.2 := by
  induction trees generalizing held with
  | nil =>
    cases holds
    exact ⟨sorted, fun member mem => .inl mem⟩
  | cons tree trees ih =>
    obtain _ | ⟨first, later⟩ := holds
    obtain ⟨sorted', source⟩ := ih later (sorted.insert _ _)
    refine ⟨sorted', fun member mem => ?_⟩
    rcases source member mem with mem | ⟨tree, mem, holds⟩
    · rcases Members.mem_insert mem with rfl | mem
      · exact .inr ⟨_, List.mem_cons_self, rfl, first⟩
      · exact .inl mem
    · exact .inr ⟨tree, List.mem_cons_of_mem _ mem, holds⟩

mutual

/-- The value of a tree is ordered and nests no deeper than the tree. -/
theorem Holds.ordered : ∀ {tree : Tree} {value : Json}, tree.Holds value →
    value.Ordered ∧ value.depth ≤ tree.depth
  | _, _, .null => ⟨trivial, Nat.le_refl _⟩
  | _, _, .bool _ => ⟨trivial, Nat.le_refl _⟩
  | _, _, .text _ => ⟨trivial, Nat.le_refl _⟩
  | _, .number (.integer _), .number value? => ⟨Numeral.exact_of_number value?, Nat.le_refl _⟩
  | _, .number (.real _), .number _ => ⟨trivial, Nat.le_refl _⟩
  | .list _, _, .list holds => ⟨holds.ordered.1, Nat.succ_le_succ holds.ordered.2⟩
  | .object trees, .object values, .object holds => by
    obtain ⟨sorted, source⟩ := holds.sorted .nil
    have members : ∀ member ∈ values,
        member.2.Ordered ∧ member.2.depth ≤ Tree.membersDepth trees := by
      intro member mem
      rcases source member mem with none | ⟨tree, mem, -, holds⟩
      · cases none
      · exact ordered_of_mem mem holds
    exact ⟨⟨sorted, orderedMembers_iff.2 fun member mem => (members member mem).1⟩,
      Nat.succ_le_succ (Json.membersDepth_le.2 fun member mem => (members member mem).2)⟩

theorem HoldsItems.ordered : ∀ {trees : List Tree} {values : List Json}, HoldsItems trees values →
    OrderedItems values ∧ Json.itemsDepth values ≤ Tree.itemsDepth trees
  | _, _, .nil => ⟨trivial, Nat.le_refl _⟩
  | _, _, .cons first later =>
    ⟨⟨first.ordered.1, later.ordered.1⟩, by
      have within := first.ordered.2
      have within' := later.ordered.2
      simp only [Json.itemsDepth, Tree.itemsDepth]
      omega⟩

theorem ordered_of_mem : ∀ {trees : List (String × Tree)} {tree : String × Tree} {value : Json},
    tree ∈ trees → tree.2.Holds value → value.Ordered ∧ value.depth ≤ Tree.membersDepth trees
  | _, _, _, .head _, holds =>
    ⟨holds.ordered.1, Nat.le_trans holds.ordered.2 (Nat.le_max_left ..)⟩
  | _, _, _, .tail _ mem, holds =>
    ⟨(ordered_of_mem mem holds).1,
      Nat.le_trans (ordered_of_mem mem holds).2 (Nat.le_max_right ..)⟩

end

end Tree

end DisclosureRelay.Json
