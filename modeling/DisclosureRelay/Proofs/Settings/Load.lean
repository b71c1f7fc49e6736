import DisclosureRelay.Proofs.Json.Printer
import DisclosureRelay.Proofs.Settings.Members

/-!
# Settings are read by their trees

The reader of settings reads the texts of trees that mean settings, and no others: `read_sound` and
`read_complete` say so, on the ground of the same about one item (`item_sound`, `item_complete`),
one member of an object (`member_sound`, `member_complete`) and the items of a list (`items_sound`,
`items_complete`).
-/

namespace DisclosureRelay.Settings

open Json

variable {draft last : Draft} {member : Member} {s body rest : List Char} {trees : List Tree}
  {members : List Member}

/-! ## The reader -/

lemma item_sound (draft : Draft) (member : Member) :
    Sound (draft.item member) (Behind (Spelled fun tree next => draft.Takes tree next member)) := by
  have given {α : Type} {Gift : Tree → α → Prop} {f : α → Draft} (piece : List Char) (next : Draft)
      (taken : ∃ value, Behind (Spelled Gift) piece value ∧ next = f value) :
      Behind (Spelled fun tree next => ∃ value, Gift tree value ∧ next = f value) piece next := by
    obtain ⟨value, behind, rfl⟩ := taken
    obtain ⟨tree, behind, gift⟩ := behind_spelled.1 behind
    exact behind_spelled.2 ⟨tree, behind, value, gift, rfl⟩
  cases member with
  | submitDelayMs | fallbackTimeoutMs | httpTimeoutSecs => exact (Sound.natural.map _).imp given
  | supportContact => exact (Sound.spelledText.map _).imp given

lemma item_complete (draft : Draft) (member : Member) :
    Complete (draft.item member)
      (Behind (Spelled fun tree next => draft.Takes tree next member)) := by
  intro piece next rest taken stop
  obtain ⟨tree, behind, takes⟩ := behind_spelled.1 taken
  cases member with
  | submitDelayMs | fallbackTimeoutMs | httpTimeoutSecs =>
    obtain ⟨value, given, rfl⟩ := takes
    exact (Complete.natural.map _) ⟨value, behind_spelled.2 ⟨tree, behind, given⟩, rfl⟩ stop
  | supportContact =>
    obtain ⟨value, given, rfl⟩ := takes
    exact (Complete.spelledText.map _) ⟨value, behind_spelled.2 ⟨tree, behind, given⟩, rfl⟩ stop

lemma member_sound (draft : Draft) (name : String) :
    Sound (draft.member name) (SpelledMember Draft.TakesOnce draft name) := by
  unfold Draft.member
  split
  · next member named =>
    split
    · exact .fail
    · next fresh =>
      refine (item_sound draft member).afterColon.imp fun piece next behind => ?_
      obtain ⟨tree, behind, takes⟩ := behindColon_spelled.1 behind
      exact ⟨tree, behind, member, Member.named?_eq_some.1 named, by simpa using fresh, takes⟩
  · exact .fail

lemma member_complete (draft : Draft) (name : String) :
    Complete (draft.member name) (SpelledMember Draft.TakesOnce draft name) := by
  rintro piece next rest ⟨tree, behind, member, named, fresh, takes⟩ stop
  have named := Member.named?_eq_some.2 named
  simp only [Draft.member, named, fresh, Bool.false_eq_true, if_false]
  exact (item_complete draft member).afterColon (behindColon_spelled.2 ⟨tree, behind, takes⟩) stop

/-! ## Lists -/

/-- Values that were read behind other items of a list are taken in the order of the members. -/
lemma tail_sound (read : draft.items false members s = .ok (last, rest)) :
    ∃ body trees, s = body ++ ']' :: rest ∧ TailOf (Spelled Eq) body trees ∧
      trees.length ≤ members.length ∧
      Gathers Draft.TakesNamed draft ((members.map Member.name).zip trees) last := by
  induction members generalizing draft s with
  | nil =>
    obtain ⟨_, left, closed, result⟩ := Reader.bind_eq_ok.1 read
    obtain ⟨rfl, rfl⟩ := Reader.pure_eq_ok.1 result
    obtain ⟨front, rfl, blanks⟩ := listEnd_eq_ok.1 closed
    exact ⟨front, [], rfl, .done blanks, Nat.le_refl _, .nil⟩
  | cons member members ih =>
    obtain ⟨more, t, more?, onward⟩ := Reader.bind_eq_ok.1 read
    obtain ⟨back, blanks, ⟨rfl, rfl, closing⟩ | ⟨_, first, _⟩ | ⟨rfl, _, front, blanks', rfl⟩⟩ :=
      moreItems_inv more?
    · obtain ⟨_, left, closed, result⟩ := Reader.bind_eq_ok.1 onward
      obtain ⟨rfl, rfl⟩ := Reader.pure_eq_ok.1 result
      rw [listEnd_of_head closing closed]
      exact ⟨back, [], rfl, .done blanks, Nat.zero_le _, .nil⟩
    · cases first
    · obtain ⟨next, left, item?, later⟩ := Reader.bind_eq_ok.1 onward
      obtain ⟨_, rfl, front', piece, rfl, blanks'', tree, spells, takes⟩ := item_sound _ _ item?
      obtain ⟨body, trees, rfl, tail, enough, gathers⟩ := ih later
      refine ⟨_, tree :: trees, ?_, .more blanks (blanks'.append blanks'') ⟨tree, spells, rfl⟩ tail,
        Nat.succ_le_succ enough, .cons ⟨member, rfl, takes⟩ gathers⟩
      simp only [List.append_assoc, List.cons_append]

lemma tail_complete (tail : TailOf (Spelled Eq) body trees)
    (enough : trees.length ≤ members.length)
    (gathers : Gathers Draft.TakesNamed draft ((members.map Member.name).zip trees) last) :
    draft.items false members (body ++ ']' :: rest) = .ok (last, rest) := by
  induction tail generalizing draft members with
  | done blanks =>
    cases members with
    | nil =>
      cases gathers
      exact Reader.bind_of_ok (listEnd_eq_ok.2 ⟨_, rfl, blanks⟩)
    | cons member members =>
      cases gathers
      refine (Reader.bind_of_ok (moreItems_end blanks)).trans ?_
      exact Reader.bind_of_ok (listEnd_eq_ok.2 ⟨[], rfl, blanks_nil⟩)
  | @more back front s t tree trees blanks blanks' spelled tail ih =>
    cases members with
    | nil => cases enough
    | cons member members =>
      obtain _ | ⟨⟨other, same, takes⟩, later⟩ := gathers
      obtain rfl := Member.name_injective same
      obtain ⟨_, spells, rfl⟩ := spelled
      have stop : Stops (t ++ ']' :: rest) := tail.stops
      have item? := item_complete draft other (.of_piece ⟨_, spells, takes⟩) stop
      obtain ⟨c, s, rfl, noBlank, item⟩ := begins_of_spells spells
      simp only [List.append_assoc, List.cons_append] at item? ⊢
      refine (Reader.bind_of_ok (moreItems_next blanks blanks' noBlank item)).trans ?_
      refine (Reader.bind_of_ok item?).trans ?_
      exact ih (Nat.le_of_succ_le_succ enough) later

/-- Values that were read as the items of a list are taken in the order of the members. -/
lemma items_sound (read : draft.items true (member :: members) s = .ok (last, rest)) :
    ∃ body trees, s = body ++ ']' :: rest ∧ ItemsOf (Spelled Eq) body trees ∧
      trees.length ≤ members.length + 1 ∧
      Gathers Draft.TakesNamed draft (((member :: members).map Member.name).zip trees) last := by
  obtain ⟨more, t, more?, onward⟩ := Reader.bind_eq_ok.1 read
  obtain ⟨back, blanks, ⟨rfl, rfl, closing⟩ | ⟨rfl, _, rfl⟩ | ⟨_, first, _⟩⟩ := moreItems_inv more?
  · obtain ⟨_, left, closed, result⟩ := Reader.bind_eq_ok.1 onward
    obtain ⟨rfl, rfl⟩ := Reader.pure_eq_ok.1 result
    rw [listEnd_of_head closing closed]
    exact ⟨back, [], rfl, .none blanks, Nat.zero_le _, .nil⟩
  · obtain ⟨next, left, item?, later⟩ := Reader.bind_eq_ok.1 onward
    obtain ⟨_, rfl, front, piece, rfl, blanks', tree, spells, takes⟩ := item_sound _ _ item?
    obtain ⟨body, trees, rfl, tail, enough, gathers⟩ := tail_sound later
    refine ⟨_, tree :: trees, ?_, .some (blanks.append blanks') ⟨tree, spells, rfl⟩ tail,
      Nat.succ_le_succ enough, .cons ⟨member, rfl, takes⟩ gathers⟩
    simp only [List.append_assoc]
  · cases first

lemma items_complete (items : ItemsOf (Spelled Eq) body trees)
    (enough : trees.length ≤ members.length + 1)
    (gathers : Gathers Draft.TakesNamed draft
      (((member :: members).map Member.name).zip trees) last) :
    draft.items true (member :: members) (body ++ ']' :: rest) = .ok (last, rest) := by
  cases items with
  | none blanks =>
    cases gathers
    refine (Reader.bind_of_ok (moreItems_end blanks)).trans ?_
    exact Reader.bind_of_ok (listEnd_eq_ok.2 ⟨[], rfl, blanks_nil⟩)
  | @some front s t tree trees blanks spelled tail =>
    obtain _ | ⟨⟨other, same, takes⟩, later⟩ := gathers
    obtain rfl := Member.name_injective same
    obtain ⟨_, spells, rfl⟩ := spelled
    have stop : Stops (t ++ ']' :: rest) := tail.stops
    have item? := item_complete draft other (.of_piece ⟨_, spells, takes⟩) stop
    obtain ⟨c, s, rfl, noBlank, item⟩ := begins_of_spells spells
    simp only [List.append_assoc, List.cons_append] at item? ⊢
    refine (Reader.bind_of_ok (moreItems_first blanks noBlank item)).trans ?_
    refine (Reader.bind_of_ok item?).trans ?_
    exact tail_complete tail (Nat.le_of_succ_le_succ enough) later

/-! ## Settings -/

/-- The settings of a tree. -/
def Stands (tree : Tree) (settings : Settings) : Prop :=
  ∃ draft, Means tree draft ∧ settings = draft.settings

lemma readList_sound :
    Sound readList fun piece settings => Spelled Stands ('[' :: piece) settings := by
  intro s settings rest read
  obtain ⟨last, left, items?, result⟩ := Reader.bind_eq_ok.1 read
  obtain ⟨rfl, rfl⟩ := Reader.pure_eq_ok.1 result
  obtain ⟨body, trees, rfl, items, enough, gathers⟩ := items_sound items?
  obtain ⟨trees, spells, same⟩ := list_of_itemsOf items
  rw [List.forall₂_eq_eq_eq] at same
  subst same
  exact ⟨body ++ [']'], by simp, _, spells, last, means_list.2 ⟨enough, gathers⟩, rfl⟩

lemma readObject_sound :
    Sound readObject fun piece settings => Spelled Stands ('\x7b' :: piece) settings := by
  intro s settings rest read
  obtain ⟨last, left, members?, result⟩ := Reader.bind_eq_ok.1 read
  obtain ⟨rfl, rfl⟩ := Reader.pure_eq_ok.1 result
  obtain ⟨_, rfl, body, rfl, members⟩ := Sound.members member_sound {} members?
  obtain ⟨trees, spells, gathers⟩ := object_of_membersOf members
  exact ⟨_, rfl, .object trees, spells, last, means_object.2 gathers, rfl⟩

/-- Settings that were read stand there. -/
theorem read_sound (depth : Nat) : Sound (read depth) (Behind (Spelled Stands)) := by
  unfold read
  refine .cases (fun _ => .fail) (.nested fun _ _ => ?_) (.nested fun _ _ => ?_)
  · exact readList_sound
  · exact readObject_sound

/-- All settings that stand there are read. -/
theorem read_complete (depth : Nat) : Complete (read (depth + 1)) (Behind (Spelled Stands)) := by
  rintro _ settings rest ⟨front, piece, rfl, blanks, tree, spells, draft, means, rfl⟩ stop
  unfold read
  cases tree with
  | object members =>
    obtain ⟨body, rfl, members⟩ := membersOf_of_object spells (means_object.1 means)
    have members? := Complete.members member_complete {} ⟨body, rfl, members⟩ stop
    simp only [List.append_assoc, List.cons_append] at members? ⊢
    rw [cases_of_object blanks]
    exact Reader.bind_of_ok members?
  | list trees =>
    obtain ⟨enough, gathers⟩ := means_list.1 means
    have same : List.Forall₂ Eq trees trees := List.forall₂_refl trees
    obtain ⟨body, rfl, items⟩ := itemsOf_of_list spells same
    simp only [List.append_assoc, List.cons_append, List.nil_append]
    rw [cases_of_list blanks]
    exact Reader.bind_of_ok (items_complete items enough gathers)
  | null | bool | number | text => cases means

end DisclosureRelay.Settings
