import DisclosureRelay.Proofs.Json.Passing
import DisclosureRelay.Proofs.Json.Printer
import DisclosureRelay.Session.Data

/-!
# Session data survive being printed

A pointer is read exactly where members are spelled of which one, and only one, is its address
(`pointer_sound`, `pointer_complete`); its metadata have what the last member of each other name
holds (`Pointer.Means.readFrom`). Session data are read from an object or a list
(`handsOver_of_parse`), and printed as an object that is read back (`parse_print`). `print_of_data`
puts these together for every text that is accepted.
-/

namespace DisclosureRelay.Session

open Json

/-! ## Pointers -/

/-- A member of a pointer: the address, once, or a member of the metadata. -/
inductive Pointer.Draft.Takes (depth : Nat) :
    Pointer.Draft → String → Tree → Pointer.Draft → Prop where
  | address {draft : Pointer.Draft} {text : String} :
      draft.address = none → Takes depth draft "u" (.text text) { draft with address := some text }
  | metadata {draft : Pointer.Draft} {name : String} {tree : Tree} {value : Json} :
      name ≠ "u" → HoldsWithin depth tree value →
      Takes depth draft name tree { draft with metadata := draft.metadata.insert name value }

/-- The tree of a pointer. -/
inductive Pointer.Means : Nat → Tree → Pointer → Prop where
  | object {depth : Nat} {members : List (String × Tree)} {address : String} {metadata : Members} :
      Gathers (Pointer.Draft.Takes depth) {} members ⟨some address, metadata⟩ →
      Pointer.Means (depth + 1) (.object members) ⟨address, metadata⟩

section pointer
variable {depth : Nat} {draft : Pointer.Draft} {name : String}

lemma draft_sound : Sound (draft.member depth name)
    (SpelledMember (Pointer.Draft.Takes depth) draft name) := by
  unfold Pointer.Draft.member
  split
  · next address =>
    subst address
    refine (Sound.spelledText.once draft.address _ fun text =>
      { draft with address := some text }).imp ?_
    rintro piece _ ⟨none, _, behind, text, rfl, rfl⟩
    exact ⟨_, behind, .address none⟩
  · next address =>
    refine ((value_sound depth).member fun value =>
      { draft with metadata := draft.metadata.insert name value }).imp ?_
    rintro piece _ ⟨tree, behind, value, holds, rfl⟩
    exact ⟨tree, behind, .metadata address holds⟩

lemma draft_complete : Complete (draft.member depth name)
    (SpelledMember (Pointer.Draft.Takes depth) draft name) := by
  rintro piece next rest ⟨tree, behind, takes⟩ stop
  unfold Pointer.Draft.member
  cases takes with
  | address none =>
    rw [if_pos rfl, none]
    exact (Complete.spelledText.member fun text => { draft with address := some text })
      ⟨_, behind, _, rfl, rfl⟩ stop
  | metadata address holds =>
    rw [if_neg address]
    exact ((value_complete depth).member fun value =>
      { draft with metadata := draft.metadata.insert name value }) ⟨_, behind, _, holds, rfl⟩ stop

/-- A pointer that was read stands there. -/
theorem pointer_sound : Sound (Pointer.read depth) (Behind (Spelled (Pointer.Means depth))) := by
  unfold Pointer.read
  refine .cases (fun _ => .fail) .fail (.nested fun left eq => ?_)
  subst eq
  intro s pointer rest read
  obtain ⟨⟨address, metadata⟩, t, members?, result⟩ := Reader.bind_eq_ok.1 read
  obtain ⟨_, rfl, body, rfl, members⟩ := Sound.members (fun _ _ => draft_sound) {} members?
  obtain ⟨trees, spells, gathers⟩ := object_of_membersOf members
  cases address with
  | none => cases result
  | some address =>
    obtain ⟨rfl, rfl⟩ := Reader.pure_eq_ok.1 result
    exact ⟨_, rfl, .object trees, spells, .object gathers⟩

/-- Every pointer that stands there and does not nest too deep is read. -/
theorem pointer_complete :
    Complete (Pointer.read depth) (Behind (Spelled (Pointer.Means depth))) := by
  rintro _ pointer rest ⟨front, piece, rfl, blanks, tree, spells, means⟩ stop
  cases means with
  | object gathers =>
    obtain ⟨body, rfl, members⟩ := membersOf_of_object spells gathers
    have members? := Complete.members (fun _ _ => draft_complete) {} ⟨body, rfl, members⟩ stop
    simp only [Pointer.read, List.append_assoc, List.cons_append] at members? ⊢
    rw [cases_of_object blanks]
    exact Reader.bind_of_ok members?

end pointer

/-! ## Members of a pointer -/

section members
variable {depth : Nat} {members : List (String × Tree)} {draft last : Pointer.Draft}

/-- The address as a member. -/
def addressMember (address : String) : String × Tree :=
  ("u", .text address)

/-- The address stands in the one member of its name. -/
lemma addresses (gathers : Gathers (Pointer.Draft.Takes depth) draft members last) :
    draft.address.toList.map addressMember ++ members.filter (·.1 = "u") =
      last.address.toList.map addressMember := by
  induction gathers with
  | nil => exact List.append_nil _
  | cons takes _ ih =>
    rw [← ih]
    cases takes with
    | address none => simp [none, addressMember]
    | metadata other => simp [other]

/-- The metadata are gathered from the other members. -/
lemma metadata_inserts (gathers : Gathers (Pointer.Draft.Takes depth) draft members last) :
    Gathers (Inserts depth) draft.metadata (members.filter (·.1 ≠ "u")) last.metadata := by
  induction gathers with
  | nil => exact .nil
  | cons takes _ ih =>
    cases takes with
    | address => simpa using ih
    | metadata other holds =>
      rw [List.filter_cons_of_pos (by simpa using other)]
      exact .cons ⟨_, holds, rfl⟩ ih

lemma takes_of_inserts {address : Option String} {held metadata : Members}
    (inserts : Gathers (Inserts depth) held members metadata)
    (others : ∀ member ∈ members, member.1 ≠ "u") :
    Gathers (Pointer.Draft.Takes depth) ⟨address, held⟩ members ⟨address, metadata⟩ := by
  induction inserts with
  | nil => exact .nil
  | cons insert _ ih =>
    obtain ⟨value, holds, rfl⟩ := insert
    have other := others _ List.mem_cons_self
    exact .cons (.metadata other holds)
      (ih fun member mem => others member (List.mem_cons_of_mem _ mem))

end members

/-- The metadata of a pointer that can be printed and read back, with brackets that nest no deeper
than that. -/
structure Pointer.WellFormed (depth : Nat) (pointer : Pointer) : Prop where
  sorted : pointer.metadata.Sorted
  ordered : OrderedMembers pointer.metadata
  within : membersDepth pointer.metadata ≤ depth
  noAddress : ∀ member ∈ pointer.metadata, member.1 ≠ "u"

/-- What is known of a pointer that was read from members of a text. -/
structure Pointer.ReadFrom (members : List (String × Tree)) (pointer : Pointer) : Prop where
  address : members.filter (·.1 = "u") = [("u", .text pointer.address)]
  metadata : ∀ name ≠ "u", ∀ value, pointer.metadata.get? name = some value ↔
    ∃ tree, Tree.last? members name = some tree ∧ tree.Holds value

section
variable {depth : Nat} {members : List (String × Tree)} {pointer : Pointer}

lemma Pointer.Means.wellFormed (means : Pointer.Means (depth + 1) (.object members) pointer) :
    pointer.WellFormed depth := by
  obtain ⟨gathers⟩ := means
  obtain ⟨holds, within⟩ := gathers_inserts.1 (metadata_inserts gathers)
  obtain ⟨sorted, source⟩ := holds.sorted .nil
  obtain ⟨ordered, deep⟩ := (Tree.Holds.object holds).ordered
  refine ⟨sorted, ordered.2, Nat.le_trans (Nat.le_of_succ_le_succ deep) within, ?_⟩
  intro member mem
  rcases source member mem with none | ⟨tree, mem, name, -⟩
  · cases none
  · rw [← name]
    simpa using (List.mem_filter.1 mem).2

lemma Pointer.Means.readFrom (means : Pointer.Means (depth + 1) (.object members) pointer) :
    pointer.ReadFrom members := by
  obtain ⟨gathers⟩ := means
  obtain ⟨holds, -⟩ := gathers_inserts.1 (metadata_inserts gathers)
  refine ⟨addresses gathers, fun name other value => ?_⟩
  have last := Tree.last?_filter (·.1 ≠ "u") members fun tree => decide_eq_true other
  rcases holds.get? name with ⟨tree, held, last?, holds', get?⟩ | ⟨none, get?⟩
  · rw [get?, ← last, last?]
    constructor
    · rintro ⟨⟩
      exact ⟨tree, rfl, holds'⟩
    · rintro ⟨_, ⟨⟩, holds⟩
      exact congrArg some (holds'.unique holds)
  · rw [get?, ← last, none]
    simp

/-- A printed pointer spells its address and then its metadata. -/
lemma Pointer.WellFormed.spelled (wellFormed : pointer.WellFormed depth)
    (free : RealFreeMembers pointer.metadata) :
    ∃ trees, Spells pointer.json.chars (.object (addressMember pointer.address :: trees)) ∧
      List.Forall₂ (Keeps depth) pointer.metadata trees := by
  have said : ∀ member ∈ ("u", Json.text pointer.address) :: pointer.metadata,
      Spelled (HoldsWithin depth) member.2.chars member.2 := by
    intro member mem
    cases mem with
    | head => exact spelled_chars trivial trivial (Nat.zero_le _)
    | tail _ mem => exact spelled_members free wellFormed.ordered wellFormed.within member mem
  obtain ⟨_, spells, keeps⟩ := spelled_object said
  obtain _ | @⟨_, tree, _, trees, keep, keeps⟩ := keeps
  obtain ⟨name, tree⟩ := tree
  obtain ⟨rfl, ⟨⟩, -⟩ := keep
  exact ⟨trees, spells, keeps⟩

/-- What is printed for a pointer means the pointer. -/
lemma Pointer.WellFormed.means (wellFormed : pointer.WellFormed depth)
    {trees : List (String × Tree)} (keeps : List.Forall₂ (Keeps depth) pointer.metadata trees) :
    Pointer.Means (depth + 1) (.object (addressMember pointer.address :: trees)) pointer := by
  have inserts := gathers_sorted wellFormed.sorted keeps
  refine .object (.cons (.address rfl) (takes_of_inserts inserts fun tree mem => ?_))
  have name := List.mem_map_of_mem (f := (·.1)) mem
  rw [names_of_keeps keeps] at name
  obtain ⟨member, mem, eq⟩ := List.mem_map.1 name
  exact eq ▸ wellFormed.noAddress member mem

end

/-! ## Session data -/

/-- What a text hands over: the members of the pointer, as they stand there, and the token. -/
structure Outline where
  pointer : Option (List (String × Tree)) := none
  token : Option String := none

/-- A member of session data: the pointer, once, the token, once, or another one. -/
inductive Outline.Takes : Outline → String → List Char → Outline → Prop where
  | pointer {outline : Outline} {piece : List Char} {members : List (String × Tree)} :
      outline.pointer = none → BehindColon (Behind Spells) piece (.object members) →
      Takes outline "sessionPtr" piece { outline with pointer := some members }
  | token {outline : Outline} {piece : List Char} {token : String} :
      outline.token = none → BehindColon (Behind Spells) piece (.text token) →
      Takes outline "token" piece { outline with token := some token }
  | other {outline : Outline} {name : String} {piece : List Char} :
      name ≠ "sessionPtr" → name ≠ "token" →
      BehindColon (Behind fun s _ => Passes s) piece () → Takes outline name piece outline

/-- The texts that hand over a pointer of these members and a token: an object that has both, among
others that are passed over, or a list of them. -/
inductive HandsOver : List Char → List (String × Tree) → String → Prop where
  | object {body : List Char} {members : List (String × Tree)} {token : String} :
      MembersOf Outline.Takes {} body ⟨some members, some token⟩ →
      HandsOver ('\x7b' :: (body ++ ['\x7d'])) members token
  | list {s : List Char} {members : List (String × Tree)} {token : String} :
      Spells s (.list [.object members, .text token]) → HandsOver s members token

/-- The whole texts that do, with blanks around. -/
inductive HandsOverWhole : List Char → List (String × Tree) → String → Prop where
  | blanks {front s back : List Char} {members : List (String × Tree)} {token : String} :
      Blanks front → HandsOver s members token → Blanks back →
      HandsOverWhole (front ++ s ++ back) members token

/-- A member of session data with the pointer it means; `Passed` says what is passed over. -/
inductive Data.Draft.Takes (Passed : List Char → Prop) (depth : Nat) :
    Data.Draft → String → List Char → Data.Draft → Prop where
  | pointer {draft : Data.Draft} {piece : List Char} {tree : Tree} {pointer : Pointer} :
      draft.pointer = none → BehindColon (Behind Spells) piece tree →
      Pointer.Means depth tree pointer →
      Takes Passed depth draft "sessionPtr" piece { draft with pointer := some pointer }
  | token {draft : Data.Draft} {piece : List Char} {token : String} :
      draft.token = none → BehindColon (Behind Spells) piece (.text token) →
      Takes Passed depth draft "token" piece { draft with token := some token }
  | other {draft : Data.Draft} {name : String} {piece : List Char} :
      name ≠ "sessionPtr" → name ≠ "token" →
      BehindColon (Behind fun s _ => Passed s) piece () → Takes Passed depth draft name piece draft

section data
variable {depth : Nat} {name : String}

lemma dataDraft_sound {draft : Data.Draft} :
    Sound (draft.member depth name) (draft.Takes Passes depth name) := by
  unfold Data.Draft.member
  split
  · next pointer =>
    subst pointer
    refine (pointer_sound.once draft.pointer _ fun pointer =>
      { draft with pointer := some pointer }).imp ?_
    rintro piece _ ⟨none, tree, behind, pointer, means, rfl⟩
    exact .pointer none behind means
  · next pointer =>
    split
    · next token =>
      subst token
      refine (Sound.spelledText.once draft.token _ fun token =>
        { draft with token := some token }).imp ?_
      rintro piece _ ⟨none, _, behind, token, rfl, rfl⟩
      exact .token none behind
    · next token =>
      refine (skip_sound.afterColon.map fun _ => draft).imp ?_
      rintro piece _ ⟨_, passed, rfl⟩
      exact .other pointer token passed

lemma dataDraft_complete {draft : Data.Draft} :
    Complete (draft.member depth name) (draft.Takes (fun _ => False) depth name) := by
  rintro piece next rest takes stop
  unfold Data.Draft.member
  cases takes with
  | pointer none behind means =>
    rw [if_pos rfl, none]
    exact (pointer_complete.member fun pointer => { draft with pointer := some pointer })
      ⟨_, behind, _, means, rfl⟩ stop
  | token none behind =>
    rw [if_neg (by decide), if_pos rfl, none]
    exact (Complete.spelledText.member fun token => { draft with token := some token })
      ⟨_, behind, _, rfl, rfl⟩ stop
  | other _ _ passed =>
    obtain ⟨_, _, _, _, _, _, _, _, passed⟩ := passed
    exact passed.elim

/-- What was read of session data and what the text hands over. -/
structure Alike (depth : Nat) (draft : Data.Draft) (outline : Outline) : Prop where
  pointer : Option.Rel (fun pointer members => Pointer.Means depth (.object members) pointer)
    draft.pointer outline.pointer
  token : draft.token = outline.token

lemma Alike.takes {draft next : Data.Draft} {outline : Outline} {piece : List Char}
    (alike : Alike depth draft outline) (takes : draft.Takes Passes depth name piece next) :
    ∃ next', Alike depth next next' ∧ outline.Takes name piece next' := by
  obtain ⟨pointer, token⟩ := outline
  obtain ⟨pointer?, token?⟩ := alike
  cases takes with
  | pointer none behind means =>
    rw [none] at pointer?
    cases pointer?
    cases means with
    | object gathers =>
      refine ⟨_, ?_, .pointer rfl behind⟩
      exact ⟨.some (.object gathers), token?⟩
  | token none behind =>
    refine ⟨_, ?_, .token (token?.symm.trans none) behind⟩
    exact ⟨pointer?, rfl⟩
  | other pointer token passed => exact ⟨_, ⟨pointer?, token?⟩, .other pointer token passed⟩

lemma readObject_sound : Sound (Data.readObject depth) fun piece data =>
    ∃ body members, piece = body ++ ['\x7d'] ∧
      MembersOf Outline.Takes {} body ⟨some members, some data.token⟩ ∧
      Pointer.Means depth (.object members) data.pointer := by
  intro s data rest read
  obtain ⟨draft, left, members?, result⟩ := Reader.bind_eq_ok.1 read
  obtain ⟨_, rfl, body, rfl, members⟩ := Sound.members (fun _ _ => dataDraft_sound) {} members?
  obtain ⟨⟨pointer, token⟩, ⟨pointer?, token?⟩, members⟩ :
      ∃ outline, Alike depth draft outline ∧ MembersOf Outline.Takes {} body outline :=
    members.imp (fun _ _ _ _ _ alike takes => alike.takes takes) ⟨.none, rfl⟩
  obtain ⟨pointer', token'⟩ := draft
  cases pointer? with
  | none => cases result
  | some means =>
    cases token' with
    | none => cases result
    | some token' =>
      obtain ⟨rfl, rfl⟩ := Reader.pure_eq_ok.1 result
      cases token?
      exact ⟨_, rfl, body, _, rfl, members, means⟩

lemma readList_sound : Sound (Data.readList depth) fun piece data =>
    ∃ members, Spells ('[' :: piece) (.list [.object members, .text data.token]) ∧
      Pointer.Means depth (.object members) data.pointer := by
  intro s data rest read
  simp only [Data.readList] at read
  obtain ⟨more, t, more?, afterOpening⟩ := Reader.bind_eq_ok.1 read
  obtain ⟨front, blanks, ⟨rfl, _, _⟩ | ⟨rfl, _, rfl⟩ | ⟨_, first, _⟩⟩ := moreItems_inv more?
  · cases afterOpening
  · obtain ⟨pointer, t', pointer?, afterPointer⟩ := Reader.bind_eq_ok.1 afterOpening
    obtain ⟨_, rfl, front', piece, rfl, blanks', tree, spells, means⟩ := pointer_sound pointer?
    obtain ⟨more', t'', more'?, afterComma⟩ := Reader.bind_eq_ok.1 afterPointer
    obtain ⟨back, blanks'', ⟨rfl, _, _⟩ | ⟨_, first, _⟩ | ⟨rfl, _, gap, gap?, rfl⟩⟩ :=
      moreItems_inv more'?
    · cases afterComma
    · cases first
    · obtain ⟨token, t''', token?, afterToken⟩ := Reader.bind_eq_ok.1 afterComma
      obtain ⟨_, rfl, gap', text, rfl, gap'?, spells'⟩ := Sound.text token?
      obtain ⟨_, left, closed, result⟩ := Reader.bind_eq_ok.1 afterToken
      obtain ⟨back', rfl, blanks'''⟩ := listEnd_eq_ok.1 closed
      obtain ⟨rfl, rfl⟩ := Reader.pure_eq_ok.1 result
      cases means with
      | object gathers =>
        have items := SpellsItems.more (blanks.append blanks') spells blanks''
          (.last (gap?.append gap'?) (.text spells') blanks''')
        exact ⟨_, by simp, _, .list items, .object gathers⟩
  · cases first

lemma data_sound : Sound (Data.read (depth + 1)) (Behind fun piece data =>
    ∃ members, HandsOver piece members data.token ∧
      Pointer.Means depth (.object members) data.pointer) := by
  unfold Data.read
  refine .cases (fun _ => .fail) (.nested fun left eq => ?_) (.nested fun left eq => ?_)
  · cases eq
    refine readList_sound.imp ?_
    rintro piece data ⟨members, spells, means⟩
    exact ⟨members, .list spells, means⟩
  · cases eq
    refine readObject_sound.imp ?_
    rintro _ data ⟨body, members, rfl, outline, means⟩
    exact ⟨members, .object outline, means⟩

/-- Session data that were read were handed over. -/
theorem handsOver_of_parse {raw : String} {data : Data} (accepted : Data.parse raw = .ok data) :
    ∃ members, HandsOverWhole raw.toList members data.token ∧
      Pointer.Means 126 (.object members) data.pointer := by
  rw [Data.parse] at accepted
  split at accepted
  · next data read =>
    cases accepted
    obtain ⟨front, piece, back, eq, blanks, ⟨members, hands, means⟩, blanks'⟩ :=
      data_sound.parse read
    exact ⟨members, eq ▸ .blanks blanks hands blanks', means⟩
  · cases accepted

/-- The texts of session data that nothing is passed over in. -/
def Data.Spelled (depth : Nat) (piece : List Char) (data : Data) : Prop :=
  ∃ body, piece = '\x7b' :: (body ++ ['\x7d']) ∧
    MembersOf (Data.Draft.Takes (fun _ => False) depth) {} body ⟨some data.pointer, some data.token⟩

lemma data_complete : Complete (Data.read (depth + 1)) (Behind (Data.Spelled depth)) := by
  rintro _ data rest ⟨front, _, rfl, blanks, body, rfl, members⟩ stop
  have members? := Complete.members (fun _ _ => dataDraft_complete) {} ⟨body, rfl, members⟩ stop
  simp only [Data.read, List.append_assoc, List.cons_append] at members? ⊢
  rw [cases_of_object blanks]
  exact Reader.bind_of_ok members?

lemma spelled_print {data : Data} (wellFormed : data.pointer.WellFormed depth)
    (free : RealFreeMembers data.pointer.metadata) :
    Data.Spelled (depth + 1) data.json.chars data := by
  obtain ⟨trees, spells, keeps⟩ := wellFormed.spelled free
  refine ⟨_, by rw [Data.json, chars, List.cons_append], membersOf_membersChars ?_⟩
  have token : Spells (Json.text data.token).chars (.text data.token) :=
    .text (spellsText_literalChars data.token)
  refine .cons (.pointer rfl ⟨[], _, rfl, blanks_nil, .of_piece spells⟩ (wellFormed.means keeps)) ?_
  exact .cons (.token rfl ⟨[], _, rfl, blanks_nil, .of_piece token⟩) .nil

/-- Printed session data are read back. -/
theorem parse_print {data : Data} (wellFormed : data.pointer.WellFormed 125)
    (free : RealFreeMembers data.pointer.metadata) : Data.parse data.json.print = .ok data := by
  have spelled := spelled_print wellFormed free
  have read : parse (Data.read depthLimit) data.json.print = .ok data :=
    data_complete.parse (show _ = [] ++ data.json.chars ++ [] by simp [print]) blanks_nil spelled
      blanks_nil
  rw [Data.parse, read]

end data

/-! ## Session data that were read -/

/-- A pointer moves to another server with the id in its address and with its metadata. -/
lemma relocated_inv {pointer moved : Pointer} {server : String}
    (relocated : pointer.relocated server = .ok moved) :
    (∃ id, Session.id pointer.address = .ok id ∧ moved.address = addressAt server id) ∧
      moved.metadata = pointer.metadata := by
  unfold Pointer.relocated relocate at relocated
  cases id? : Session.id pointer.address with
  | ok id =>
    rw [id?] at relocated
    cases relocated
    exact ⟨⟨id, rfl, rfl⟩, rfl⟩
  | error failure =>
    rw [id?] at relocated
    cases relocated

lemma Pointer.WellFormed.nodup {depth : Nat} {pointer : Pointer}
    (wellFormed : pointer.WellFormed depth) : ("u" :: pointer.metadata.map (·.1)).Nodup := by
  refine List.nodup_cons.2 ⟨fun mem => ?_, ?_⟩
  · obtain ⟨member, mem, eq⟩ := List.mem_map.1 mem
    exact wellFormed.noAddress member mem eq
  · exact wellFormed.sorted.imp fun lt => String.ne_of_lt lt

/-- The text of a pointer has its address once and every member of its metadata once. -/
lemma Pointer.WellFormed.print {depth : Nat} {pointer : Pointer}
    (wellFormed : pointer.WellFormed depth) (free : RealFreeMembers pointer.metadata) :
    ∃ shown, Spells pointer.json.print.toList (.object shown) ∧
      shown.filter (·.1 = "u") = [("u", .text pointer.address)] ∧ (shown.map (·.1)).Nodup ∧
      ∀ name ≠ "u", ∀ value, (∃ tree, (name, tree) ∈ shown ∧ tree.Holds value) ↔
        pointer.metadata.get? name = some value := by
  obtain ⟨trees, spells, keeps⟩ := wellFormed.spelled free
  have readFrom := (wellFormed.means keeps).readFrom
  have nodup : ((addressMember pointer.address :: trees).map (·.1)).Nodup := by
    rw [List.map_cons, names_of_keeps keeps]
    exact wellFormed.nodup
  refine ⟨_, by rwa [Json.print, String.toList_ofList], readFrom.address, nodup,
    fun name other value => ?_⟩
  rw [readFrom.metadata name other value]
  simp only [Tree.last?_eq_some_of_nodup nodup]

/-- Session data that a text was read as have no address among the metadata of their pointer, and
without reals in there they are read back from what is printed for them. Moved to another server,
the pointer is printed with its new address and, for each other name, with what the last member of
that name held in the text that was read. -/
theorem print_of_data (raw : String) (data : Data) (accepted : Data.parse raw = .ok data)
    (free : RealFreeMembers data.pointer.metadata) :
    (∀ member ∈ data.pointer.metadata, member.1 ≠ "u") ∧
      Data.parse data.json.print = .ok data ∧
      (Data.parse data.json.print).map (·.json.print) = .ok data.json.print ∧
      ∃ members, HandsOverWhole raw.toList members data.token ∧
        members.filter (·.1 = "u") = [("u", .text data.pointer.address)] ∧
        ∀ server pointer, data.pointer.relocated server = .ok pointer →
          (∃ id, Session.id data.pointer.address = .ok id ∧ pointer.address = addressAt server id) ∧
          ∃ shown, Spells pointer.json.print.toList (.object shown) ∧
            shown.filter (·.1 = "u") = [("u", .text pointer.address)] ∧
            (shown.map (·.1)).Nodup ∧
            ∀ name ≠ "u", ∀ value, (∃ tree, (name, tree) ∈ shown ∧ tree.Holds value) ↔
              ∃ tree, Tree.last? members name = some tree ∧ tree.Holds value := by
  obtain ⟨members, hands, means⟩ := handsOver_of_parse accepted
  have wellFormed := means.wellFormed
  have again := parse_print wellFormed free
  refine ⟨wellFormed.noAddress, again, by rw [again]; rfl, members, hands, means.readFrom.address,
    fun server pointer relocated => ?_⟩
  obtain ⟨address, metadata⟩ := relocated_inv relocated
  have moved : pointer.WellFormed 125 := by
    obtain ⟨sorted, ordered, within, noAddress⟩ := wellFormed
    rw [← metadata] at sorted ordered within noAddress
    exact ⟨sorted, ordered, within, noAddress⟩
  obtain ⟨shown, spells, once, nodup, others⟩ := moved.print (metadata ▸ free)
  refine ⟨address, shown, spells, once, nodup, fun name other value => ?_⟩
  rw [others name other value, metadata, means.readFrom.metadata name other value]

/-- Session data as a list; the pointer has two members of one name. -/
def repeatedText : String :=
  "[\x7b\"qr\":2,\"u\":\"irma/session/1\",\"qr\":\x7b\"b\":1\x7d,\"a\":[null]\x7d,\"t\"]"

/-- The same session data as they are printed. -/
def repeatedPrinted : String :=
  "\x7b\"sessionPtr\":\x7b\"u\":\"irma/session/1\",\"a\":[null],\"qr\":\x7b\"b\":1\x7d\x7d,"
    ++ "\"token\":\"t\"\x7d"

theorem print_of_repeated : ∃ data, Data.parse repeatedText = .ok data ∧
    RealFreeMembers data.pointer.metadata ∧ data.json.print = repeatedPrinted ∧
    Data.parse data.json.print = .ok data := by
  have runs : (match Data.parse repeatedText with
      | .ok data =>
        decide (RealFreeMembers data.pointer.metadata ∧ data.json.print = repeatedPrinted)
      | .error _ => false) = true := by
    decide +kernel
  split at runs
  · next data accepted =>
    obtain ⟨free, text⟩ := of_decide_eq_true runs
    exact ⟨data, accepted, free, text, (print_of_data _ data accepted free).2.1⟩
  · cases runs

end DisclosureRelay.Session
