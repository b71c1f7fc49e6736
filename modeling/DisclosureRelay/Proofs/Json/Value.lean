import Mathlib.Data.List.Forall2
import DisclosureRelay.Proofs.Json.Reader
import DisclosureRelay.Proofs.Json.Tree

/-!
# Values are read by their grammar

The items of a list and the members of an object as readers walk through them are the items and
members of a tree (`list_of_itemsOf`, `object_of_membersOf` and their converses). With that, a value
is read exactly if the text spells a tree that holds it and whose brackets do not nest too deep
(`value_sound`, `value_complete`), and so is the value of a whole text (`ofText_eq_ok`).
-/

namespace DisclosureRelay.Json

variable {α σ τ : Type} {s t body piece front back rest : List Char}

/-- A piece that spells a tree of which something holds. -/
def Spelled (Means : Tree → α → Prop) (piece : List Char) (value : α) : Prop :=
  ∃ tree, Spells piece tree ∧ Means tree value

/-- A member that changes what was gathered, by the tree that stands behind its name. -/
def SpelledMember (Means : σ → String → Tree → σ → Prop) (held : σ) (name : String)
    (piece : List Char) (next : σ) : Prop :=
  ∃ tree, BehindColon (Behind Spells) piece tree ∧ Means held name tree next

/-- What is gathered from members one after the other. -/
inductive Gathers (Means : σ → String → τ → σ → Prop) : σ → List (String × τ) → σ → Prop where
  | nil {held : σ} : Gathers Means held [] held
  | cons {held next last : σ} {name : String} {value : τ} {members : List (String × τ)} :
      Means held name value next → Gathers Means next members last →
      Gathers Means held ((name, value) :: members) last

/-- A value begins with a character that neither is a blank nor closes a list. -/
lemma begins_of_spells {tree : Tree} (spells : Spells piece tree) :
    ∃ c s, piece = c :: s ∧ isBlank c = false ∧ c ≠ ']' := by
  cases spells with
  | number spells =>
    obtain ⟨c, s, rfl, mark⟩ := spells.begins
    refine ⟨c, s, rfl, isBlank_of_number mark, ?_⟩
    rintro rfl
    simp at mark
  | text spells =>
    obtain ⟨_⟩ := spells
    exact ⟨_, _, rfl, by decide, by decide⟩
  | _ => exact ⟨_, _, rfl, by decide, by decide⟩

lemma spelled_begins {Means : Tree → α → Prop} : Begins (Spelled Means) := by
  rintro piece value ⟨tree, spells, -⟩
  exact begins_of_spells spells

/-! ## Lists -/

section lists
variable {Means : Tree → α → Prop} {values : List α}

lemma spellsItems_of_tailOf (tail : TailOf (Spelled Means) t values) {item : Tree}
    (blanks : Blanks front) (spells : Spells s item) :
    ∃ items, SpellsItems (front ++ (s ++ t)) (item :: items) ∧ List.Forall₂ Means items values := by
  induction tail generalizing front s item with
  | @done back blanks' =>
    refine ⟨[], ?_, .nil⟩
    rw [← List.append_assoc]
    exact .last blanks spells blanks'
  | @more back front' s' t value values blanks' blanks'' said tail ih =>
    obtain ⟨next, spells', means⟩ := said
    obtain ⟨items, later, all⟩ := ih blanks'' spells'
    refine ⟨next :: items, ?_, .cons means all⟩
    rw [← List.append_assoc, ← List.append_assoc]
    exact .more blanks spells blanks' later

lemma list_of_itemsOf (items : ItemsOf (Spelled Means) body values) :
    ∃ trees, Spells ('[' :: body ++ [']']) (.list trees) ∧ List.Forall₂ Means trees values := by
  cases items with
  | none blanks => exact ⟨[], .noItems blanks, .nil⟩
  | some blanks said tail =>
    obtain ⟨item, spells, means⟩ := said
    obtain ⟨items, later, all⟩ := spellsItems_of_tailOf tail blanks spells
    exact ⟨item :: items, .list later, .cons means all⟩

lemma tailOf_of_spellsItems {trees : List Tree} (blanks : Blanks back)
    (spells : SpellsItems s trees) (all : List.Forall₂ Means trees values) :
    TailOf (Spelled Means) (back ++ ',' :: s) values := by
  induction all generalizing back s with
  | nil => cases spells
  | cons means all ih =>
    cases spells with
    | last blanks' spells blanks'' =>
      cases all
      rw [List.append_assoc]
      exact .more blanks blanks' ⟨_, spells, means⟩ (.done blanks'')
    | more blanks' spells blanks'' later =>
      rw [List.append_assoc, List.append_assoc]
      exact .more blanks blanks' ⟨_, spells, means⟩ (ih blanks'' later)

lemma itemsOf_of_list {trees : List Tree} (spells : Spells piece (.list trees))
    (all : List.Forall₂ Means trees values) :
    ∃ body, piece = '[' :: body ++ [']'] ∧ ItemsOf (Spelled Means) body values := by
  cases spells with
  | noItems blanks =>
    cases all
    exact ⟨_, rfl, .none blanks⟩
  | list items =>
    refine ⟨_, rfl, ?_⟩
    cases items with
    | last blanks spells blanks' =>
      obtain _ | ⟨means, _ | _⟩ := all
      rw [List.append_assoc]
      exact .some blanks ⟨_, spells, means⟩ (.done blanks')
    | more blanks spells blanks' later =>
      obtain _ | ⟨means, all⟩ := all
      rw [List.append_assoc, List.append_assoc]
      exact .some blanks ⟨_, spells, means⟩ (tailOf_of_spellsItems blanks' later all)

end lists

/-! ## Objects -/

section objects
variable {Means : σ → String → Tree → σ → Prop} {start held last : σ}

lemma spellsMembers_of_membersTail (tail : MembersTail (SpelledMember Means) held t last)
    {name : List Char} {key : String} {item : Tree} (blanks : Blanks front)
    (spelled : SpellsText name key) (behind : BehindColon (Behind Spells) s item) :
    ∃ members, SpellsMembers (front ++ (name ++ (s ++ t))) ((key, item) :: members) ∧
      Gathers Means held members last := by
  induction tail generalizing front name s key item with
  | done blanks' =>
    obtain ⟨gap, _, rfl, gap?, gap', piece, rfl, gap'?, spells⟩ := behind
    have member := SpellsMembers.last blanks spelled gap? gap'? spells blanks'
    refine ⟨[], ?_, .nil⟩
    simpa only [List.append_assoc, List.cons_append] using member
  | more blanks' blanks'' spelled' step tail ih =>
    obtain ⟨gap, _, rfl, gap?, gap', piece, rfl, gap'?, spells⟩ := behind
    obtain ⟨next, behind', means⟩ := step
    obtain ⟨members, later, all⟩ := ih blanks'' spelled' behind'
    have member := SpellsMembers.more blanks spelled gap? gap'? spells blanks' later
    refine ⟨(_, next) :: members, ?_, .cons means all⟩
    simpa only [List.append_assoc, List.cons_append] using member

lemma object_of_membersOf (members : MembersOf (SpelledMember Means) start body last) :
    ∃ trees, Spells ('\x7b' :: body ++ ['\x7d']) (.object trees) ∧
      Gathers Means start trees last := by
  cases members with
  | none blanks => exact ⟨[], .noMembers blanks, .nil⟩
  | some blanks spelled step tail =>
    obtain ⟨item, behind, means⟩ := step
    obtain ⟨members, later, all⟩ := spellsMembers_of_membersTail tail blanks spelled behind
    exact ⟨_, .object later, .cons means all⟩

lemma membersTail_of_spellsMembers {trees : List (String × Tree)} (blanks : Blanks back)
    (spells : SpellsMembers s trees) (all : Gathers Means held trees last) :
    MembersTail (SpelledMember Means) held (back ++ ',' :: s) last := by
  induction all generalizing back s with
  | nil => cases spells
  | cons means all ih =>
    cases spells with
    | last front? name? gap? gap'? spells back? =>
      cases all
      have step : MembersTail (SpelledMember Means) _ _ _ := .more blanks front? name?
        ⟨_, ⟨_, _, rfl, gap?, _, _, rfl, gap'?, spells⟩, means⟩ (.done back?)
      simpa only [List.append_assoc, List.cons_append] using step
    | more front? name? gap? gap'? spells back? later =>
      have step : MembersTail (SpelledMember Means) _ _ _ := .more blanks front? name?
        ⟨_, ⟨_, _, rfl, gap?, _, _, rfl, gap'?, spells⟩, means⟩ (ih back? later)
      simpa only [List.append_assoc, List.cons_append] using step

lemma membersOf_of_object {trees : List (String × Tree)} (spells : Spells piece (.object trees))
    (all : Gathers Means start trees last) :
    ∃ body, piece = '\x7b' :: body ++ ['\x7d'] ∧
      MembersOf (SpelledMember Means) start body last := by
  cases spells with
  | noMembers blanks =>
    cases all
    exact ⟨_, rfl, .none blanks⟩
  | object members =>
    refine ⟨_, rfl, ?_⟩
    cases members with
    | last front? name? gap? gap'? spells back? =>
      obtain _ | ⟨means, _ | _⟩ := all
      have step : MembersOf (SpelledMember Means) _ _ _ := .some front? name?
        ⟨_, ⟨_, _, rfl, gap?, _, _, rfl, gap'?, spells⟩, means⟩ (.done back?)
      simpa only [List.append_assoc, List.cons_append] using step
    | more front? name? gap? gap'? spells back? later =>
      obtain _ | ⟨means, all⟩ := all
      have step : MembersOf (SpelledMember Means) _ _ _ := .some front? name?
        ⟨_, ⟨_, _, rfl, gap?, _, _, rfl, gap'?, spells⟩, means⟩
        (membersTail_of_spellsMembers back? later all)
      simpa only [List.append_assoc, List.cons_append] using step

end objects

/-! ## Values -/

/-- A tree that holds a value and whose brackets do not nest deeper than that. -/
def HoldsWithin (depth : Nat) (tree : Tree) (value : Json) : Prop :=
  tree.Holds value ∧ tree.depth ≤ depth

/-- A member is put to those gathered before it. -/
def Inserts (depth : Nat) (held : Members) (name : String) (tree : Tree) (next : Members) : Prop :=
  ∃ value, HoldsWithin depth tree value ∧ next = held.insert name value

lemma forall₂_holdsWithin {depth : Nat} {trees : List Tree} {values : List Json} :
    List.Forall₂ (HoldsWithin depth) trees values ↔
      Tree.HoldsItems trees values ∧ Tree.itemsDepth trees ≤ depth := by
  constructor
  · intro all
    induction all with
    | nil => exact ⟨.nil, Nat.zero_le _⟩
    | cons holds _ ih => exact ⟨.cons holds.1 ih.1, Nat.max_le.2 ⟨holds.2, ih.2⟩⟩
  · rintro ⟨holds, within⟩
    induction trees generalizing values with
    | nil =>
      cases holds
      exact .nil
    | cons tree trees ih =>
      obtain _ | ⟨first, later⟩ := holds
      obtain ⟨depth?, within⟩ := Nat.max_le.1 within
      exact .cons ⟨first, depth?⟩ (ih later within)

lemma gathers_inserts {depth : Nat} {trees : List (String × Tree)} {held values : Members} :
    Gathers (Inserts depth) held trees values ↔
      Tree.HoldsMembers held trees values ∧ Tree.membersDepth trees ≤ depth := by
  constructor
  · intro all
    induction all with
    | nil => exact ⟨.nil _, Nat.zero_le _⟩
    | cons inserts _ ih =>
      obtain ⟨value, holds, rfl⟩ := inserts
      exact ⟨.cons holds.1 ih.1, Nat.max_le.2 ⟨holds.2, ih.2⟩⟩
  · rintro ⟨holds, within⟩
    induction trees generalizing held with
    | nil =>
      cases holds
      exact .nil
    | cons tree trees ih =>
      obtain _ | ⟨first, later⟩ := holds
      obtain ⟨depth?, within⟩ := Nat.max_le.1 within
      exact .cons ⟨_, ⟨first, depth?⟩, rfl⟩ (ih later within)

/-- A value behind blanks is the value of the tree there. -/
lemma behind_spelled {Means : Tree → α → Prop} {value : α} :
    Behind (Spelled Means) piece value ↔ ∃ tree, Behind Spells piece tree ∧ Means tree value := by
  constructor
  · rintro ⟨front, piece, rfl, blanks, tree, spells, means⟩
    exact ⟨tree, ⟨front, piece, rfl, blanks, spells⟩, means⟩
  · rintro ⟨tree, ⟨front, piece, rfl, blanks, spells⟩, means⟩
    exact ⟨front, piece, rfl, blanks, tree, spells, means⟩

/-- A value behind a colon is the value of the tree there. -/
lemma behindColon_spelled {Means : Tree → α → Prop} {value : α} :
    BehindColon (Behind (Spelled Means)) piece value ↔
      ∃ tree, BehindColon (Behind Spells) piece tree ∧ Means tree value := by
  constructor
  · rintro ⟨gap, piece, rfl, blanks, behind⟩
    obtain ⟨tree, behind, means⟩ := behind_spelled.1 behind
    exact ⟨tree, ⟨gap, piece, rfl, blanks, behind⟩, means⟩
  · rintro ⟨tree, ⟨gap, piece, rfl, blanks, behind⟩, means⟩
    exact ⟨gap, piece, rfl, blanks, behind_spelled.2 ⟨tree, behind, means⟩⟩

/-- The value of a member is read behind its colon. -/
lemma Sound.member {reader : Reader α} {Means : Tree → α → Prop}
    (sound : Sound reader (Behind (Spelled Means))) (f : α → σ) :
    Sound (do return f (← Reader.afterColon reader)) fun piece next =>
      ∃ tree, BehindColon (Behind Spells) piece tree ∧
        ∃ value, Means tree value ∧ next = f value := by
  refine (sound.afterColon.map f).imp ?_
  rintro piece _ ⟨value, behind, rfl⟩
  obtain ⟨tree, behind, means⟩ := behindColon_spelled.1 behind
  exact ⟨tree, behind, value, means, rfl⟩

/-- The value of a member that may stand only once. -/
lemma Sound.once {reader : Reader α} {Means : Tree → α → Prop}
    (sound : Sound reader (Behind (Spelled Means))) (held : Option τ) (fault : Fault) (f : α → σ) :
    Sound (if held.isSome then Reader.fail fault else do return f (← Reader.afterColon reader))
      fun piece next => held = none ∧ ∃ tree, BehindColon (Behind Spells) piece tree ∧
        ∃ value, Means tree value ∧ next = f value := by
  cases held with
  | some held => exact .fail
  | none => exact (sound.member f).imp fun _ _ member => ⟨rfl, member⟩

lemma Complete.member {reader : Reader α} {Means : Tree → α → Prop}
    (complete : Complete reader (Behind (Spelled Means))) (f : α → σ) :
    Complete (do return f (← Reader.afterColon reader)) fun piece next =>
      ∃ tree, BehindColon (Behind Spells) piece tree ∧
        ∃ value, Means tree value ∧ next = f value := by
  rintro piece _ rest ⟨tree, behind, value, means, rfl⟩
  exact (complete.afterColon.map f) ⟨value, behindColon_spelled.2 ⟨tree, behind, means⟩, rfl⟩

/-- A text that is spelled is the tree of that text. -/
lemma spelled_text {text : String} :
    Spelled (fun tree text => tree = .text text) piece text ↔ SpellsText piece text := by
  constructor
  · rintro ⟨_, _ | _ | _ | _ | spells, ⟨⟩⟩
    exact spells
  · exact fun spells => ⟨_, .text spells, rfl⟩

lemma Sound.spelledText :
    Sound Reader.text (Behind (Spelled fun tree text => tree = .text text)) := by
  intro s text rest read
  obtain ⟨_, rfl, front, piece, rfl, blanks, spells⟩ := Sound.text read
  exact ⟨_, rfl, front, piece, rfl, blanks, spelled_text.2 spells⟩

lemma Complete.spelledText :
    Complete Reader.text (Behind (Spelled fun tree text => tree = .text text)) := by
  rintro _ text rest ⟨front, piece, rfl, blanks, spelled⟩
  exact Complete.text ⟨front, piece, rfl, blanks, spelled_text.1 spelled⟩

/-- What a reader of counts takes. -/
lemma natural_accepts {value : Number} {numeral : Numeral} {count : Nat}
    (value? : numeral.number = .ok value) :
    Reader.acceptNatural (.number value) = some (.ok count) ↔
      (Tree.number numeral).IsNatural count := by
  rw [← Numeral.number_eq_natural, value?, Except.ok.injEq]
  cases value with
  | real bits => simp [Reader.acceptNatural]
  | integer value =>
    simp only [Reader.acceptNatural, Number.integer.injEq]
    split
    · next negative =>
      simp only [Option.some.injEq, reduceCtorEq, false_iff]
      omega
    · next positive =>
      simp only [Option.some.injEq, Except.ok.injEq]
      omega

/-- A count is read exactly where one is spelled. -/
lemma Sound.natural : Sound Reader.natural (Behind (Spelled Tree.IsNatural)) := by
  refine Sound.scalar.imp ?_
  rintro _ count ⟨front, piece, rfl, blanks, value, said, accepted⟩
  cases said with
  | number spells value? =>
    exact ⟨front, piece, rfl, blanks, _, .number spells, (natural_accepts value?).1 accepted⟩
  | _ => cases accepted

lemma Complete.natural : Complete Reader.natural (Behind (Spelled Tree.IsNatural)) := by
  rintro _ count rest ⟨front, piece, rfl, blanks, tree, spells, natural⟩ stop
  obtain ⟨whole, rfl, _⟩ := id natural
  cases spells with
  | number spells =>
    have value? := Numeral.number_eq_natural.2 natural
    exact Complete.scalar ⟨front, piece, rfl, blanks, _, .number spells value?,
      (natural_accepts value?).2 natural⟩ stop

/-- The texts of scalars are the texts of the trees without brackets. -/
lemma SaysScalar.spelled {value : Json} {depth : Nat} (said : SaysScalar piece value) :
    Spelled (HoldsWithin depth) piece value := by
  cases said with
  | null => exact ⟨.null, .null, .null, Nat.zero_le _⟩
  | true => exact ⟨.bool _, .true, .bool _, Nat.zero_le _⟩
  | false => exact ⟨.bool _, .false, .bool _, Nat.zero_le _⟩
  | number spells value? => exact ⟨.number _, .number spells, .number value?, Nat.zero_le _⟩
  | text spells => exact ⟨.text _, .text spells, .text _, Nat.zero_le _⟩

/-- The texts of a list, or of an object, whose items are read by the grammar. -/
lemma list_holdsWithin {depth : Nat} {value : Json} :
    (∃ values, (∃ body, piece = body ++ [']'] ∧ ItemsOf (Spelled (HoldsWithin depth)) body values) ∧
      value = .list values) ↔
      ∃ trees, Spells ('[' :: piece) (.list trees) ∧
        HoldsWithin (depth + 1) (.list trees) value := by
  constructor
  · rintro ⟨values, ⟨body, rfl, items⟩, rfl⟩
    obtain ⟨trees, spells, all⟩ := list_of_itemsOf items
    obtain ⟨holds, within⟩ := forall₂_holdsWithin.1 all
    exact ⟨trees, spells, .list holds, Nat.succ_le_succ within⟩
  · rintro ⟨trees, spells, _ | _ | _ | _ | holds, within⟩
    have all := forall₂_holdsWithin.2 ⟨holds, Nat.le_of_succ_le_succ within⟩
    obtain ⟨body, eq, items⟩ := itemsOf_of_list spells all
    exact ⟨_, ⟨body, (List.cons.inj eq).2, items⟩, rfl⟩

lemma object_holdsWithin {depth : Nat} {value : Json} :
    (∃ values, (∃ body, piece = body ++ ['\x7d'] ∧
      MembersOf (SpelledMember (Inserts depth)) [] body values) ∧ value = .object values) ↔
      ∃ trees, Spells ('\x7b' :: piece) (.object trees) ∧
        HoldsWithin (depth + 1) (.object trees) value := by
  constructor
  · rintro ⟨values, ⟨body, rfl, members⟩, rfl⟩
    obtain ⟨trees, spells, all⟩ := object_of_membersOf members
    obtain ⟨holds, within⟩ := gathers_inserts.1 all
    exact ⟨trees, spells, .object holds, Nat.succ_le_succ within⟩
  · rintro ⟨trees, spells, _ | _ | _ | _ | _ | holds, within⟩
    have all := gathers_inserts.2 ⟨holds, Nat.le_of_succ_le_succ within⟩
    obtain ⟨body, eq, members⟩ := membersOf_of_object spells all
    exact ⟨_, ⟨body, (List.cons.inj eq).2, members⟩, rfl⟩

/-- A value that was read stands there. -/
theorem value_sound (depth : Nat) :
    Sound (Reader.value depth) (Behind (Spelled (HoldsWithin depth))) := by
  have scalars {piece : List Char} {scalar : Json} {depth : Nat} (said : SaysScalar piece scalar) :
      Sound (pure scalar) fun more value =>
        more = [] ∧ Spelled (HoldsWithin depth) piece value := by
    intro s value rest read
    obtain ⟨rfl, rfl⟩ := Reader.pure_eq_ok.1 read
    exact ⟨[], rfl, rfl, said.spelled⟩
  induction depth with
  | zero => exact .cases scalars .fail .fail
  | succ depth ih =>
    have member (held : Members) (name : String) :
        Sound (do return Members.insert name (← Reader.afterColon (Reader.value depth)) held)
          (SpelledMember (Inserts depth) held name) :=
      ih.member (Members.insert name · held)
    refine .cases scalars ((ih.items.map Json.list).imp fun piece value values => ?_)
      (((Sound.members member []).map Json.object).imp fun piece value values => ?_)
    · obtain ⟨trees, list⟩ := list_holdsWithin.1 values
      exact ⟨.list trees, list⟩
    · obtain ⟨trees, object⟩ := object_holdsWithin.1 values
      exact ⟨.object trees, object⟩

/-- A value that is spelled is a scalar, or it is in brackets and nests less deep inside. -/
lemma Spelled.cases {depth : Nat} {value : Json}
    (spelled : Spelled (HoldsWithin depth) piece value) :
    SaysScalar piece value ∨ ∃ left, depth = left + 1 ∧
      ((∃ t trees, piece = '[' :: t ∧ Spells ('[' :: t) (.list trees) ∧
          HoldsWithin (left + 1) (.list trees) value) ∨
        (∃ t trees, piece = '\x7b' :: t ∧ Spells ('\x7b' :: t) (.object trees) ∧
          HoldsWithin (left + 1) (.object trees) value)) := by
  obtain ⟨tree, spells, holds, within⟩ := spelled
  have deeper {n : Nat} (within : n + 1 ≤ depth) : ∃ left, depth = left + 1 :=
    Nat.exists_eq_succ_of_ne_zero (Nat.ne_zero_of_lt within)
  cases spells with
  | null => cases holds; exact .inl .null
  | true => cases holds; exact .inl .true
  | false => cases holds; exact .inl .false
  | number spells =>
    cases holds with
    | number value? => exact .inl (.number spells value?)
  | text spells => cases holds; exact .inl (.text spells)
  | noItems blanks =>
    obtain ⟨left, rfl⟩ := deeper within
    exact .inr ⟨left, rfl, .inl ⟨_, [], rfl, .noItems blanks, holds, within⟩⟩
  | list items =>
    obtain ⟨left, rfl⟩ := deeper within
    exact .inr ⟨left, rfl, .inl ⟨_, _, rfl, .list items, holds, within⟩⟩
  | noMembers blanks =>
    obtain ⟨left, rfl⟩ := deeper within
    exact .inr ⟨left, rfl, .inr ⟨_, [], rfl, .noMembers blanks, holds, within⟩⟩
  | object members =>
    obtain ⟨left, rfl⟩ := deeper within
    exact .inr ⟨left, rfl, .inr ⟨_, _, rfl, .object members, holds, within⟩⟩

/-- Every value that stands there and does not nest too deep is read. -/
theorem value_complete (depth : Nat) :
    Complete (Reader.value depth) (Behind (Spelled (HoldsWithin depth))) := by
  induction depth with
  | zero =>
    rintro _ value rest ⟨front, piece, rfl, blanks, spelled⟩ stop
    rcases spelled.cases with said | ⟨left, none, _⟩
    · rw [List.append_assoc, Reader.value, cases_of_scalar blanks said stop]
      rfl
    · cases none
  | succ depth ih =>
    rintro _ value rest ⟨front, piece, rfl, blanks, spelled⟩ stop
    rw [List.append_assoc, Reader.value]
    rcases spelled.cases with said | ⟨left, eq, ⟨t, trees, rfl, list⟩ | ⟨t, trees, rfl, object⟩⟩
    · rw [cases_of_scalar blanks said stop]
      rfl
    · cases eq
      rw [List.cons_append, cases_of_list blanks]
      exact ((ih.items spelled_begins).map Json.list) (list_holdsWithin.2 ⟨trees, list⟩) stop
    · cases eq
      rw [List.cons_append, cases_of_object blanks]
      have member (held : Members) (name : String) :
          Complete (do return Members.insert name (← Reader.afterColon (Reader.value depth)) held)
            (SpelledMember (Inserts depth) held name) :=
        ih.member (Members.insert name · held)
      have complete := Complete.members member []
      exact (complete.map Json.object) (object_holdsWithin.2 ⟨trees, object⟩) stop

/-! ## Whole texts -/

/-- What a whole text was read as stands in it, with blanks around. -/
theorem Sound.parse {reader : Reader α} {Says : List Char → α → Prop}
    (sound : Sound reader (Behind Says)) {text : String} {value : α}
    (read : parse reader text = .ok value) :
    ∃ front piece back, text.toList = front ++ piece ++ back ∧ Blanks front ∧ Says piece value ∧
      Blanks back := by
  unfold Json.parse at read
  split at read
  · cases read
  · next held rest taken =>
    split at read
    · next onlyBlanks =>
      cases read
      obtain ⟨_, eq, front, piece, rfl, blanks, said⟩ := sound taken
      refine ⟨front, piece, rest, eq, blanks, said, ?_⟩
      simpa [skipBlank, Blanks] using onlyBlanks
    · cases read

theorem Complete.parse {reader : Reader α} {Says : List Char → α → Prop}
    (complete : Complete reader (Behind Says)) {text : String} {value : α}
    (eq : text.toList = front ++ piece ++ back) (blanks : Blanks front) (said : Says piece value)
    (blanks' : Blanks back) : parse reader text = .ok value := by
  have taken : reader text.toList = .ok (value, back) := by
    have stop := stops_append blanks' stops_nil
    rw [List.append_nil] at stop
    rw [eq]
    exact complete ⟨front, piece, rfl, blanks, said⟩ stop
  have onlyBlanks : skipBlank back = [] := by simpa [skipBlank, Blanks] using blanks'
  simp [Json.parse, taken, onlyBlanks]

/-- The value of a whole text is what the text spells, if it nests less deep than the limit. -/
theorem ofText_eq_ok {text : String} {value : Json} :
    ofText text = .ok value ↔
      ∃ tree, SpellsWhole text.toList tree ∧ tree.Holds value ∧ tree.depth ≤ depthLimit := by
  constructor
  · intro read
    obtain ⟨front, piece, back, eq, blanks, ⟨tree, spells, holds⟩, blanks'⟩ :=
      (value_sound depthLimit).parse read
    exact ⟨tree, eq ▸ .blanks blanks spells blanks', holds⟩
  · rintro ⟨tree, whole, holds⟩
    generalize eq : text.toList = s at whole
    obtain ⟨blanks, spells, blanks'⟩ := whole
    exact (value_complete depthLimit).parse eq blanks ⟨tree, spells, holds⟩ blanks'

end DisclosureRelay.Json
