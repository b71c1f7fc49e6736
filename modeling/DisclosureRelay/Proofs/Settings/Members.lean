import DisclosureRelay.Proofs.Json.Value
import DisclosureRelay.Settings

/-!
# What the members of settings give

`Means` says which trees give which values to settings: an object of known members, none repeated,
or a list of values in the order of the declaration. `means_object` and `means_list` say the same of
values that are taken one after the other, and `Means.perm` that the order of members does not
matter.
-/

namespace DisclosureRelay.Settings

open Json

/-- The values that members give to settings. -/
structure Gives (members : List (String × Tree)) (draft : Draft) : Prop where
  submitDelayMs : Option.Rel Tree.IsNatural (Tree.last? members "submit_delay_ms")
    draft.submitDelayMs
  fallbackTimeoutMs : Option.Rel Tree.IsNatural (Tree.last? members "fallback_timeout_ms")
    draft.fallbackTimeoutMs
  httpTimeoutSecs : Option.Rel Tree.IsNatural (Tree.last? members "http_timeout_secs")
    draft.httpTimeoutSecs
  supportContact : Option.Rel (fun tree text => tree = .text text)
    (Tree.last? members "support_contact") draft.supportContact

/-- The trees of settings. -/
inductive Means : Tree → Draft → Prop where
  | object {members : List (String × Tree)} {draft : Draft} :
    (members.map (·.1)).Nodup → (∀ member ∈ members, member.1 ∈ memberNames) →
    Gives members draft → Means (.object members) draft
  | list {items : List Tree} {draft : Draft} :
    items.length ≤ memberNames.length → Gives (memberNames.zip items) draft →
    Means (.list items) draft

/-! ## Members -/

namespace Member

variable {member other : Member} {text : String}

lemma name_injective (same : member.name = other.name) : member = other := by
  cases member <;> cases other <;> first | rfl | (revert same; decide)

lemma mem_all (member : Member) : member ∈ all := by
  cases member <;> decide

lemma named?_eq_some : named? text = some member ↔ member.name = text := by
  constructor
  · intro named
    simpa using List.find?_some named
  · rintro rfl
    cases member <;> decide

/-- What a member can hold. -/
def Fits (tree : Tree) : Member → Prop
  | .submitDelayMs | .fallbackTimeoutMs | .httpTimeoutSecs => ∃ value, tree.IsNatural value
  | .supportContact => ∃ text, tree = .text text

end Member

/-- A member takes its value from a tree. -/
def Draft.Takes (draft : Draft) (tree : Tree) (next : Draft) : Member → Prop
  | .submitDelayMs =>
    ∃ value, tree.IsNatural value ∧ next = { draft with submitDelayMs := some value }
  | .fallbackTimeoutMs =>
    ∃ value, tree.IsNatural value ∧ next = { draft with fallbackTimeoutMs := some value }
  | .httpTimeoutSecs =>
    ∃ value, tree.IsNatural value ∧ next = { draft with httpTimeoutSecs := some value }
  | .supportContact =>
    ∃ text, tree = .text text ∧ next = { draft with supportContact := some text }

/-- The member of a name takes its value from a tree. -/
def Draft.TakesNamed (draft : Draft) (name : String) (tree : Tree) (next : Draft) : Prop :=
  ∃ member : Member, member.name = name ∧ draft.Takes tree next member

/-- The member of a name, which has no value yet, takes one from a tree. -/
def Draft.TakesOnce (draft : Draft) (name : String) (tree : Tree) (next : Draft) : Prop :=
  ∃ member : Member, member.name = name ∧ draft.has member = false ∧ draft.Takes tree next member

variable {draft next held last : Draft} {member other : Member} {tree : Tree}
  {members : List (String × Tree)}

lemma Draft.Takes.has (takes : draft.Takes tree next member) :
    next.has other = true ↔ draft.has other = true ∨ other = member := by
  cases member <;> obtain ⟨_, _, rfl⟩ := takes <;> cases other <;> simp [Draft.has]

lemma Member.Fits.takes (fits : member.Fits tree) (draft : Draft) :
    ∃ next, draft.Takes tree next member := by
  cases member <;> obtain ⟨value, given⟩ := fits <;> exact ⟨_, value, given, rfl⟩

/-- Members that take their values once are those that take values where no name is repeated. -/
lemma gathers_once :
    Gathers Draft.TakesOnce held members last ↔
      Gathers Draft.TakesNamed held members last ∧ (members.map (·.1)).Nodup ∧
        ∀ member : Member, held.has member = true → member.name ∉ members.map (·.1) := by
  induction members generalizing held with
  | nil =>
    constructor
    · rintro ⟨⟩
      exact ⟨.nil, List.nodup_nil, fun _ _ => List.not_mem_nil⟩
    · rintro ⟨⟨⟩, -⟩
      exact .nil
  | cons first members ih =>
    obtain ⟨name, tree⟩ := first
    rw [List.map_cons, List.nodup_cons]
    constructor
    · rintro (_ | ⟨⟨member, rfl, fresh, takes⟩, later⟩)
      obtain ⟨named, nodup, free⟩ := ih.1 later
      refine ⟨.cons ⟨member, rfl, takes⟩ named, ⟨free member (takes.has.2 (.inr rfl)), nodup⟩, ?_⟩
      intro other has mem
      obtain same | later := List.mem_cons.1 mem
      · obtain rfl := Member.name_injective same
        simp [has] at fresh
      · exact free other (takes.has.2 (.inl has)) later
    · rintro ⟨_ | ⟨⟨member, rfl, takes⟩, named⟩, ⟨new, nodup⟩, free⟩
      have fresh : held.has member = false :=
        Bool.eq_false_iff.2 fun has => free member has List.mem_cons_self
      refine .cons ⟨member, rfl, fresh, takes⟩ (ih.2 ⟨named, nodup, fun other has => ?_⟩)
      obtain has | rfl := takes.has.1 has
      · exact fun mem => free other has (List.mem_cons_of_mem _ mem)
      · exact new

/-- A part of settings that is given by one member. -/
def Own {α : Type} (member : Member) (Gift : Tree → α → Prop) (get : Draft → Option α) : Prop :=
  ∀ ⦃draft : Draft⦄ ⦃tree next other⦄, draft.Takes tree next other →
    (other = member ∧ ∃ value, Gift tree value ∧ get next = some value) ∨
      (other ≠ member ∧ get next = get draft)

/-- What a member gives when values are taken one after the other is what its last tree gives. -/
lemma Own.gathers {α : Type} {Gift : Tree → α → Prop} {get : Draft → Option α}
    (own : Own member Gift get) (gathers : Gathers Draft.TakesNamed held members last) :
    (∃ tree value, Tree.last? members member.name = some tree ∧ Gift tree value ∧
        get last = some value) ∨
      Tree.last? members member.name = none ∧ get last = get held := by
  induction gathers with
  | nil => exact .inr ⟨rfl, rfl⟩
  | @cons held next last name tree members takes _ ih =>
    obtain ⟨other, rfl, takes⟩ := takes
    rw [Tree.last?_cons]
    obtain ⟨later, value, last?, given, got⟩ | ⟨none, got⟩ := ih
    · exact .inl ⟨later, value, by rw [last?]; rfl, given, got⟩
    · rw [none, Option.none_or, got]
      obtain ⟨rfl, value, given, got⟩ | ⟨apart, got⟩ := own takes
      · exact .inl ⟨tree, value, if_pos rfl, given, got⟩
      · exact .inr ⟨if_neg (apart ∘ Member.name_injective), got⟩

lemma Own.rel {α : Type} {Gift : Tree → α → Prop} {get : Draft → Option α}
    (own : Own member Gift get) (gathers : Gathers Draft.TakesNamed held members last)
    (none : get held = none) : Option.Rel Gift (Tree.last? members member.name) (get last) := by
  obtain ⟨tree, value, last?, given, got⟩ | ⟨last?, got⟩ := own.gathers gathers
  · rw [last?, got]
    exact .some given
  · rw [last?, got, none]
    exact .none

/-- Values that are taken one after the other are those that the members give. -/
lemma gives_of_gathers (gathers : Gathers Draft.TakesNamed {} members last) :
    Gives members last := by
  have submit : Own .submitDelayMs Tree.IsNatural Draft.submitDelayMs := by
    intro draft tree next other takes
    cases other <;> obtain ⟨value, given, rfl⟩ := takes <;> simp [given]
  have fallback : Own .fallbackTimeoutMs Tree.IsNatural Draft.fallbackTimeoutMs := by
    intro draft tree next other takes
    cases other <;> obtain ⟨value, given, rfl⟩ := takes <;> simp [given]
  have http : Own .httpTimeoutSecs Tree.IsNatural Draft.httpTimeoutSecs := by
    intro draft tree next other takes
    cases other <;> obtain ⟨value, given, rfl⟩ := takes <;> simp [given]
  have contact : Own .supportContact (fun tree text => tree = .text text) Draft.supportContact := by
    intro draft tree next other takes
    cases other <;> obtain ⟨value, given, rfl⟩ := takes <;> simp [given]
  exact ⟨submit.rel gathers rfl, fallback.rel gathers rfl, http.rel gathers rfl,
    contact.rel gathers rfl⟩

lemma known_of_gathers (gathers : Gathers Draft.TakesNamed held members last) :
    ∀ given ∈ members, given.1 ∈ memberNames := by
  induction gathers with
  | nil => exact fun given mem => absurd mem List.not_mem_nil
  | cons takes _ ih =>
    obtain ⟨member, rfl, -⟩ := takes
    exact List.forall_mem_cons.2 ⟨List.mem_map_of_mem member.mem_all, ih⟩

/-- Members that hold what they can hold can be taken one after the other. -/
lemma exists_gathers
    (fits : ∀ given ∈ members, ∃ member : Member, member.name = given.1 ∧ member.Fits given.2)
    (held : Draft) : ∃ last, Gathers Draft.TakesNamed held members last := by
  induction members generalizing held with
  | nil => exact ⟨held, .nil⟩
  | cons given members ih =>
    obtain ⟨⟨member, name, fit⟩, later⟩ := List.forall_mem_cons.1 fits
    obtain ⟨next, takes⟩ := fit.takes held
    obtain ⟨last, gathers⟩ := ih later next
    exact ⟨last, .cons ⟨member, name, takes⟩ gathers⟩

lemma isNatural_unique {value other : Nat} (natural : tree.IsNatural value)
    (natural' : tree.IsNatural other) : value = other := by
  obtain ⟨whole, rfl, rfl, -⟩ := natural
  obtain ⟨_, ⟨⟩, rfl, -⟩ := natural'
  rfl

lemma rel_unique {α β : Type} {r : α → β → Prop} (unique : ∀ ⦃a b b'⦄, r a b → r a b' → b = b')
    {a? : Option α} {b? b?' : Option β} (rel : Option.Rel r a? b?) (rel' : Option.Rel r a? b?') :
    b? = b?' := by
  cases rel with
  | none => cases rel'; rfl
  | some first =>
    cases rel' with
    | some second => rw [unique first second]

lemma exists_of_rel {α β : Type} {r : α → β → Prop} {a? : Option α} {b? : Option β}
    (rel : Option.Rel r a? b?) {a : α} (some : a? = some a) : ∃ b, r a b := by
  cases rel with
  | none => cases some
  | some related =>
    cases some
    exact ⟨_, related⟩

/-- Members give one value at most for each part of settings. -/
lemma Gives.unique (gives : Gives members draft) (gives' : Gives members next) : draft = next := by
  obtain ⟨submit, fallback, http, contact⟩ := gives
  obtain ⟨submit', fallback', http', contact'⟩ := gives'
  have count : ∀ ⦃tree value other⦄, Tree.IsNatural tree value → tree.IsNatural other →
      value = other := fun _ _ _ => isNatural_unique
  have text : ∀ ⦃tree text other⦄, tree = Tree.text text → tree = .text other → text = other := by
    rintro _ text other rfl ⟨⟩
    rfl
  obtain ⟨_, _, _, _⟩ := draft
  obtain ⟨_, _, _, _⟩ := next
  rw [Draft.mk.injEq]
  exact ⟨rel_unique count submit submit', rel_unique count fallback fallback',
    rel_unique count http http', rel_unique text contact contact'⟩

lemma Gives.fits (gives : Gives members draft) (nodup : (members.map (·.1)).Nodup)
    (known : ∀ given ∈ members, given.1 ∈ memberNames) :
    ∀ given ∈ members, ∃ member : Member, member.name = given.1 ∧ member.Fits given.2 := by
  rintro ⟨name, tree⟩ mem
  obtain ⟨member, -, rfl⟩ := List.mem_map.1 (known _ mem)
  have last := (Tree.last?_eq_some_of_nodup nodup).2 mem
  refine ⟨member, rfl, ?_⟩
  obtain ⟨submit, fallback, http, contact⟩ := gives
  cases member with
  | submitDelayMs => exact exists_of_rel submit last
  | fallbackTimeoutMs => exact exists_of_rel fallback last
  | httpTimeoutSecs => exact exists_of_rel http last
  | supportContact => exact exists_of_rel contact last

/-- Where no name is repeated, the order does not matter in which values are taken. -/
theorem gathers_named (nodup : (members.map (·.1)).Nodup) :
    Gathers Draft.TakesNamed {} members draft ↔
      (∀ given ∈ members, given.1 ∈ memberNames) ∧ Gives members draft := by
  constructor
  · exact fun gathers => ⟨known_of_gathers gathers, gives_of_gathers gathers⟩
  · rintro ⟨known, gives⟩
    obtain ⟨last, gathers⟩ := exists_gathers (gives.fits nodup known) {}
    rwa [gives.unique (gives_of_gathers gathers)]

lemma means_object : Means (.object members) draft ↔ Gathers Draft.TakesOnce {} members draft := by
  constructor
  · rintro (⟨nodup, known, gives⟩ | _)
    have fresh : ∀ member : Member,
        ({} : Draft).has member = true → member.name ∉ members.map (·.1) := by
      intro member has
      cases member <;> cases has
    exact gathers_once.2 ⟨(gathers_named nodup).2 ⟨known, gives⟩, nodup, fresh⟩
  · intro gathers
    obtain ⟨named, nodup, -⟩ := gathers_once.1 gathers
    obtain ⟨known, gives⟩ := (gathers_named nodup).1 named
    exact .object nodup known gives

lemma nodup_zip {names : List String} (nodup : names.Nodup) (items : List Tree) :
    ((names.zip items).map (·.1)).Nodup := by
  induction names generalizing items with
  | nil => exact List.nodup_nil
  | cons name names ih =>
    obtain ⟨new, nodup⟩ := List.nodup_cons.1 nodup
    cases items with
    | nil => exact List.nodup_nil
    | cons item items =>
      refine List.nodup_cons.2 ⟨fun mem => ?_, ih nodup items⟩
      obtain ⟨given, given?, same⟩ : ∃ given ∈ names.zip items, given.1 = name :=
        List.mem_map.1 mem
      exact new (same ▸ (List.of_mem_zip given?).1)

/-- The values of a list are taken as those of members of the names in order. -/
lemma means_list {items : List Tree} :
    Means (.list items) draft ↔ items.length ≤ memberNames.length ∧
      Gathers Draft.TakesNamed {} (memberNames.zip items) draft := by
  have nodup : ((memberNames.zip items).map (·.1)).Nodup := nodup_zip (by decide) items
  have known : ∀ given ∈ memberNames.zip items, given.1 ∈ memberNames := fun given mem =>
    (List.of_mem_zip mem).1
  rw [gathers_named nodup, and_iff_right known]
  exact ⟨fun | .list enough gives => ⟨enough, gives⟩, fun ⟨enough, gives⟩ => .list enough gives⟩

/-- The order of the members does not matter. -/
theorem Means.perm {others : List (String × Tree)} (means : Means (.object members) draft)
    (perm : members.Perm others) : Means (.object others) draft := by
  cases means with
  | object nodup known gives =>
    have nodup' : (others.map (·.1)).Nodup := (perm.map _).nodup_iff.1 nodup
    have last? (name : String) : Tree.last? members name = Tree.last? others name := by
      ext tree
      rw [Tree.last?_eq_some_of_nodup nodup, Tree.last?_eq_some_of_nodup nodup', perm.mem_iff]
    obtain ⟨submit, fallback, http, contact⟩ := gives
    refine .object nodup' (fun given mem => known given (perm.mem_iff.2 mem)) ?_
    exact ⟨last? _ ▸ submit, last? _ ▸ fallback, last? _ ▸ http, last? _ ▸ contact⟩

end DisclosureRelay.Settings
