import DisclosureRelay.Proofs.Json.Tree
import DisclosureRelay.Proofs.Json.Value

/-!
# Printed values are read back

What is printed for an ordered value without reals spells it (`spelled_chars`): its items and
members are printed as readers walk through them (`itemsOf_itemsChars`, `spelled_object`), and
members of different names are all put back (`gathers_perm`), in their order if that is the order of
the names (`gathers_sorted`). Since the values that were read are ordered, they are read back from
what is printed for them (`ofText_print`). An object whose members stand in another order is read
back with its members in the order of their names (`print_object`).
-/

namespace DisclosureRelay.Json

variable {σ : Type}

mutual

/-- No real stands anywhere in a value. -/
def RealFree : Json → Prop
  | .number (.real _) => False
  | .null | .bool _ | .text _ | .number (.integer _) => True
  | .list items => RealFreeItems items
  | .object members => RealFreeMembers members

/-- No real stands in the items. -/
def RealFreeItems : List Json → Prop
  | [] => True
  | item :: items => item.RealFree ∧ RealFreeItems items

/-- No real stands in the values of the members. -/
def RealFreeMembers : List (String × Json) → Prop
  | [] => True
  | (_, value) :: members => value.RealFree ∧ RealFreeMembers members

end

mutual

instance RealFree.decidable : (value : Json) → Decidable value.RealFree
  | .number (.real _) => .isFalse id
  | .null | .bool _ | .text _ | .number (.integer _) => .isTrue trivial
  | .list items => RealFreeItems.decidable items
  | .object members => RealFreeMembers.decidable members

instance RealFreeItems.decidable : (items : List Json) → Decidable (RealFreeItems items)
  | [] => .isTrue trivial
  | item :: items =>
    @instDecidableAnd _ _ (RealFree.decidable item) (RealFreeItems.decidable items)

instance RealFreeMembers.decidable :
    (members : List (String × Json)) → Decidable (RealFreeMembers members)
  | [] => .isTrue trivial
  | (_, value) :: members =>
    @instDecidableAnd _ _ (RealFree.decidable value) (RealFreeMembers.decidable members)

end

/-! ## Printed lists and objects -/

lemma tailOf_itemsChars {Says : List Char → Json → Prop} {item : Json} {items : List Json}
    (said : ∀ value ∈ item :: items, Says value.chars value) :
    TailOf Says (',' :: itemsChars (item :: items)) (item :: items) := by
  induction items generalizing item with
  | nil =>
    have last := TailOf.more (t := []) blanks_nil blanks_nil (said item List.mem_cons_self)
      (.done blanks_nil)
    simpa only [itemsChars, List.nil_append, List.append_nil] using last
  | cons next items ih =>
    have later := ih fun value mem => said value (List.mem_cons_of_mem item mem)
    exact .more blanks_nil blanks_nil (said item List.mem_cons_self) later

/-- Printed items are items of a list. -/
lemma itemsOf_itemsChars {Says : List Char → Json → Prop} {items : List Json}
    (said : ∀ value ∈ items, Says value.chars value) : ItemsOf Says (itemsChars items) items := by
  match items with
  | [] => exact .none blanks_nil
  | [item] =>
    have last := ItemsOf.some (t := []) blanks_nil (said item List.mem_cons_self) (.done blanks_nil)
    simpa only [itemsChars, List.nil_append, List.append_nil] using last
  | item :: next :: items =>
    have later := tailOf_itemsChars fun value mem => said value (List.mem_cons_of_mem item mem)
    exact .some blanks_nil (said item List.mem_cons_self) later

section
variable {Steps : σ → String → List Char → σ → Prop} {held last : σ}

lemma membersTail_membersChars {member : String × Json} {members : List (String × Json)}
    (steps : Gathers (fun held name (value : Json) => Steps held name (':' :: value.chars))
      held (member :: members) last) :
    MembersTail Steps held (',' :: membersChars (member :: members)) last := by
  induction members generalizing member held with
  | nil =>
    obtain _ | ⟨step, _ | _⟩ := steps
    have last := MembersTail.more (t := []) blanks_nil blanks_nil (spellsText_literalChars _) step
      (.done blanks_nil)
    simpa only [membersChars, List.nil_append, List.append_nil] using last
  | cons next members ih =>
    obtain _ | ⟨step, steps⟩ := steps
    have more := MembersTail.more blanks_nil blanks_nil (spellsText_literalChars _) step (ih steps)
    simpa only [membersChars, List.nil_append, List.append_assoc, List.cons_append] using more

/-- Printed members are members of an object. -/
lemma membersOf_membersChars {members : List (String × Json)}
    (steps : Gathers (fun held name (value : Json) => Steps held name (':' :: value.chars))
      held members last) : MembersOf Steps held (membersChars members) last := by
  match members with
  | [] =>
    cases steps
    exact .none blanks_nil
  | [(name, value)] =>
    obtain _ | ⟨step, _ | _⟩ := steps
    have last := MembersOf.some (t := []) blanks_nil (spellsText_literalChars _) step
      (.done blanks_nil)
    simpa only [membersChars, List.nil_append, List.append_nil] using last
  | (name, value) :: next :: members =>
    obtain _ | ⟨step, steps⟩ := steps
    have more := MembersOf.some blanks_nil (spellsText_literalChars _) step
      (membersTail_membersChars steps)
    simpa only [membersChars, List.nil_append, List.append_assoc, List.cons_append] using more

end

/-- A member of a tree that has the name and holds the value of a member. -/
def Keeps (deep : Nat) (member : String × Json) (tree : String × Tree) : Prop :=
  tree.1 = member.1 ∧ HoldsWithin deep tree.2 member.2

/-- The next one of the members that are still to come. -/
def Next (deep : Nat) (left : Members) (name : String) (tree : Tree) (later : Members) : Prop :=
  ∃ value, HoldsWithin deep tree value ∧ left = (name, value) :: later

lemma gathers_next {deep : Nat} {members : Members}
    (said : ∀ member ∈ members, Spelled (HoldsWithin deep) member.2.chars member.2) :
    Gathers
      (fun left name (value : Json) => SpelledMember (Next deep) left name (':' :: value.chars))
      members members [] := by
  induction members with
  | nil => exact .nil
  | cons member members ih =>
    obtain ⟨tree, spells, holds⟩ := said member List.mem_cons_self
    exact .cons ⟨tree, ⟨[], _, rfl, blanks_nil, .of_piece spells⟩, member.2, holds, rfl⟩
      (ih fun member mem => said member (List.mem_cons_of_mem _ mem))

lemma keeps_of_gathers {deep : Nat} {members : Members} {trees : List (String × Tree)}
    (taken : Gathers (Next deep) members trees []) : List.Forall₂ (Keeps deep) members trees := by
  induction trees generalizing members with
  | nil =>
    cases taken
    exact .nil
  | cons tree trees ih =>
    obtain _ | ⟨⟨value, holds, rfl⟩, later⟩ := taken
    exact .cons ⟨rfl, holds⟩ (ih later)

lemma names_of_keeps {deep : Nat} {members : Members} {trees : List (String × Tree)}
    (keeps : List.Forall₂ (Keeps deep) members trees) : trees.map (·.1) = members.map (·.1) := by
  induction keeps with
  | nil => rfl
  | cons keep _ ih => rw [List.map_cons, List.map_cons, ih, keep.1]

/-- What the members of a tree hold are the members that they keep. -/
lemma holds_of_keeps {deep : Nat} {members : Members} {trees : List (String × Tree)}
    (keeps : List.Forall₂ (Keeps deep) members trees) {name : String} {value : Json} :
    (∃ tree, (name, tree) ∈ trees ∧ tree.Holds value) ↔ (name, value) ∈ members := by
  induction keeps with
  | nil => simp
  | @cons member tree members trees keep _ ih =>
    obtain ⟨name', held⟩ := member
    obtain ⟨_, tree⟩ := tree
    obtain ⟨rfl, holds, -⟩ := keep
    simp only [List.mem_cons, ← ih, Prod.mk.injEq]
    constructor
    · rintro ⟨_, ⟨rfl, rfl⟩ | mem, holds'⟩
      · exact .inl ⟨rfl, holds'.unique holds⟩
      · exact .inr ⟨_, mem, holds'⟩
    · rintro (⟨rfl, rfl⟩ | ⟨tree', mem, holds'⟩)
      · exact ⟨tree, .inl ⟨rfl, rfl⟩, holds⟩
      · exact ⟨tree', .inr mem, holds'⟩

/-- A printed object spells a tree of its members. -/
lemma spelled_object {deep : Nat} {members : Members}
    (said : ∀ member ∈ members, Spelled (HoldsWithin deep) member.2.chars member.2) :
    ∃ trees, Spells (Json.object members).chars (.object trees) ∧
      List.Forall₂ (Keeps deep) members trees := by
  obtain ⟨trees, spells, taken⟩ := object_of_membersOf (membersOf_membersChars (gathers_next said))
  exact ⟨trees, spells, keeps_of_gathers taken⟩

/-! ## Members with names of their own -/

/-- A name that no member has is put somewhere among the members. -/
lemma insert_perm {members : Members} {name : String} (fresh : name ∉ members.map (·.1))
    (value : Json) : (members.insert name value).Perm ((name, value) :: members) := by
  induction members with
  | nil => exact .refl _
  | cons member members ih =>
    obtain ⟨other, held⟩ := member
    obtain ⟨ne, fresh⟩ := not_or.1 (mt List.mem_cons.2 fresh)
    rw [Members.insert, if_neg (show ¬name = other from ne)]
    split
    · exact .refl _
    · exact ((ih fresh).cons _).trans (.swap ..)

/-- Members with names of their own are gathered, whatever their order is. -/
lemma gathers_perm {deep : Nat} {trees : List (String × Tree)} {members : Members} (held : Members)
    (nodup : ((held ++ members).map (·.1)).Nodup)
    (keeps : List.Forall₂ (Keeps deep) members trees) :
    ∃ values, Gathers (Inserts deep) held trees values ∧ values.Perm (held ++ members) := by
  -- the members gathered so far and those still to come have names of their own throughout
  induction keeps generalizing held with
  | nil => exact ⟨held, .nil, by rw [List.append_nil]⟩
  | @cons member tree members trees keep keeps ih =>
    obtain ⟨name, tree⟩ := tree
    obtain ⟨rfl, holds⟩ := keep
    have fresh : member.1 ∉ held.map (·.1) := by
      intro mem
      rw [List.map_append, List.nodup_append] at nodup
      exact nodup.2.2 _ mem _ List.mem_cons_self rfl
    have put : (held.insert member.1 member.2 ++ members).Perm (held ++ member :: members) :=
      ((insert_perm fresh member.2).append_right members).trans List.perm_middle.symm
    obtain ⟨values, gathers, perm⟩ := ih _ ((put.map (·.1)).nodup_iff.2 nodup)
    exact ⟨values, .cons ⟨member.2, holds, rfl⟩ gathers, perm.trans put⟩

/-- Members in the order of their names are put back as they were. -/
lemma gathers_sorted {deep : Nat} {trees : List (String × Tree)} {members : Members}
    (sorted : Members.Sorted members) (keeps : List.Forall₂ (Keeps deep) members trees) :
    Gathers (Inserts deep) [] trees members := by
  have nodup : (members.map (·.1)).Nodup := sorted.imp String.ne_of_lt
  obtain ⟨values, gathers, perm⟩ := gathers_perm [] nodup keeps
  have sorted' : Members.Sorted values := ((gathers_inserts.1 gathers).1.sorted .nil).1
  rw [Members.Sorted, List.pairwise_map] at sorted sorted'
  have same : values = members :=
    perm.eq_of_pairwise (fun _ _ _ _ lt lt' => absurd lt' (String.lt_asymm lt)) sorted' sorted
  exact same ▸ gathers

/-! ## Printed values -/

mutual

/-- What is printed for an ordered value without reals spells it. -/
theorem spelled_chars : ∀ {value : Json} {deep : Nat}, value.RealFree → value.Ordered →
    value.depth ≤ deep → Spelled (HoldsWithin deep) value.chars value
  | .null, _, _, _, _ => ⟨.null, .null, .null, Nat.zero_le _⟩
  | .bool true, _, _, _, _ => ⟨.bool true, .true, .bool true, Nat.zero_le _⟩
  | .bool false, _, _, _, _ => ⟨.bool false, .false, .bool false, Nat.zero_le _⟩
  | .number (.integer value), _, _, exact, _ =>
    ⟨.number (.ofInt value), .number (Numeral.spells_integerChars value),
      .number (Numeral.number_ofInt exact), Nat.zero_le _⟩
  | .text held, _, _, _, _ =>
    ⟨.text held, .text (spellsText_literalChars held), .text held, Nat.zero_le _⟩
  | .list items, deep, free, ordered, within => by
    obtain ⟨deep, rfl⟩ := Nat.exists_eq_succ_of_ne_zero (Nat.ne_zero_of_lt within)
    have said := spelled_items free ordered (Nat.le_of_succ_le_succ within)
    obtain ⟨trees, spells, holds⟩ :=
      list_holdsWithin.1 ⟨items, ⟨_, rfl, itemsOf_itemsChars said⟩, rfl⟩
    exact ⟨.list trees, spells, holds⟩
  | .object members, deep, free, ordered, within => by
    obtain ⟨deep, rfl⟩ := Nat.exists_eq_succ_of_ne_zero (Nat.ne_zero_of_lt within)
    have said := spelled_members free ordered.2 (Nat.le_of_succ_le_succ within)
    obtain ⟨trees, spells, keeps⟩ := spelled_object said
    obtain ⟨holds, depth⟩ := gathers_inserts.1 (gathers_sorted ordered.1 keeps)
    exact ⟨.object trees, spells, .object holds, Nat.succ_le_succ depth⟩

theorem spelled_items : ∀ {items : List Json} {deep : Nat}, RealFreeItems items →
    OrderedItems items → itemsDepth items ≤ deep →
    ∀ item ∈ items, Spelled (HoldsWithin deep) item.chars item
  | [], _, _, _, _ => nofun
  | item :: items, deep, free, ordered, within => by
    have depths := Nat.max_le.1 within
    intro other mem
    cases mem with
    | head => exact spelled_chars free.1 ordered.1 depths.1
    | tail _ mem => exact spelled_items free.2 ordered.2 depths.2 other mem

theorem spelled_members : ∀ {members : List (String × Json)} {deep : Nat},
    RealFreeMembers members → OrderedMembers members → membersDepth members ≤ deep →
    ∀ member ∈ members, Spelled (HoldsWithin deep) member.2.chars member.2
  | [], _, _, _, _ => nofun
  | (name, value) :: members, deep, free, ordered, within => by
    have depths := Nat.max_le.1 within
    intro other mem
    cases mem with
    | head => exact spelled_chars free.1 ordered.1 depths.1
    | tail _ mem => exact spelled_members free.2 ordered.2 depths.2 other mem

end

/-- What is printed is read as the value that it spells. -/
lemma ofText_of_spells {printed value : Json} {tree : Tree} (spells : Spells printed.chars tree)
    (holds : HoldsWithin depthLimit tree value) : ofText printed.print = .ok value := by
  refine ofText_eq_ok.2 ⟨tree, ?_, holds⟩
  have whole := SpellsWhole.blanks blanks_nil spells blanks_nil
  rwa [List.append_nil, List.nil_append, ← String.toList_ofList (l := printed.chars)] at whole

/-- An ordered value without reals is read back from its text, if it does not nest too deep. -/
theorem ofText_print {value : Json} (free : value.RealFree) (ordered : value.Ordered)
    (within : value.depth ≤ depthLimit) : ofText value.print = .ok value := by
  obtain ⟨tree, spells, holds⟩ := spelled_chars free ordered within
  exact ofText_of_spells spells holds

/-- The members of a printed object whose names are all different stand in its text, each of them
once, and they are read back in the order of their names. -/
theorem print_object {members : Members} (nodup : (members.map (·.1)).Nodup)
    (free : RealFreeMembers members) (ordered : OrderedMembers members)
    (within : (Json.object members).depth ≤ depthLimit) :
    (∃ shown, Spells (Json.object members).print.toList (.object shown) ∧
        (shown.map (·.1)).Nodup ∧
        ∀ name value, (∃ tree, (name, tree) ∈ shown ∧ tree.Holds value) ↔
          (name, value) ∈ members) ∧
      ∃ values, ofText (Json.object members).print = .ok (.object values) ∧
        Members.Sorted values ∧ values.Perm members := by
  obtain ⟨trees, spells, keeps⟩ :=
    spelled_object (spelled_members free ordered (Nat.le_of_succ_le_succ within))
  obtain ⟨values, gathers, perm⟩ := gathers_perm [] nodup keeps
  obtain ⟨holds, deep⟩ := gathers_inserts.1 gathers
  constructor
  · refine ⟨trees, by rwa [print, String.toList_ofList], ?_, fun name value => holds_of_keeps keeps⟩
    rwa [names_of_keeps keeps]
  · have within : HoldsWithin depthLimit (.object trees) (.object values) :=
      ⟨.object holds, Nat.succ_le_succ deep⟩
    exact ⟨values, ofText_of_spells spells within, (holds.sorted .nil).1, perm⟩

end DisclosureRelay.Json
