import DisclosureRelay.Proofs.Json.Numeral

/-!
# What readers take

`Sound` says that whatever a reader takes from the front of a text says what it returns, and
`Complete` that it takes every piece that says something. Both are shown for the parts a reader is
made of: the choice by how a value begins (`Sound.cases`), scalars (`Sound.scalar`, `Sound.text`),
what stands behind a colon, the items of a list (`Sound.items`), and the members of an object
(`Sound.members`). The items and members that follow the first one are a row of their own (`TailOf`,
`MembersTail`), so that each walk is one induction.
-/

namespace DisclosureRelay.Json

variable {α β σ τ : Type} {s t front rest : List Char} {c : Char}

/-! ## Blanks -/

lemma Blanks.append (first : Blanks s) (second : Blanks t) : Blanks (s ++ t) := fun c mem =>
  (List.mem_append.1 mem).elim (first c) (second c)

lemma blanks_nil : Blanks [] :=
  nofun

lemma skipBlank_append (blanks : Blanks front) : skipBlank (front ++ s) = skipBlank s :=
  List.dropWhile_append_of_pos blanks

lemma skipBlank_cons (noBlank : isBlank c = false) : skipBlank (c :: s) = c :: s :=
  List.dropWhile_cons_of_neg (by simp [noBlank])

/-- The text behind blanks that begins with another character. -/
lemma skipBlank_eq_cons :
    skipBlank s = c :: rest ↔
      ∃ front, s = front ++ c :: rest ∧ Blanks front ∧ isBlank c = false := by
  constructor
  · intro eq
    refine ⟨s.takeWhile isBlank, ?_, fun d mem => List.mem_takeWhile_imp mem, ?_⟩
    · rw [← eq]
      exact List.takeWhile_append_dropWhile.symm
    · have head := List.head?_dropWhile_not isBlank s
      rw [show s.dropWhile isBlank = c :: rest from eq] at head
      simpa using head
  · rintro ⟨front, rfl, blanks, noBlank⟩
    rw [skipBlank_append blanks, skipBlank_cons noBlank]

/-- A blank stops every numeral. -/
lemma stops_append (blanks : Blanks front) (stop : Stops rest) : Stops (front ++ rest) := by
  cases front with
  | nil => exact stop
  | cons c front =>
    have blank := blanks c List.mem_cons_self
    simp only [isBlank, Bool.or_eq_true, beq_iff_eq] at blank
    refine stops_cons ?_ ?_ <;> rcases blank with ((rfl | rfl) | rfl) | rfl <;> decide

/-! ## Readers -/

/-- What the reader takes from the front of a text says what it returns. -/
def Sound (reader : Reader α) (Says : List Char → α → Prop) : Prop :=
  ∀ ⦃s value rest⦄, reader s = .ok (value, rest) → ∃ piece, s = piece ++ rest ∧ Says piece value

/-- The reader takes every piece that says something, where no numeral in it could go on. -/
def Complete (reader : Reader α) (Says : List Char → α → Prop) : Prop :=
  ∀ ⦃piece value rest⦄, Says piece value → Stops rest → reader (piece ++ rest) = .ok (value, rest)

/-- A piece behind blanks. -/
def Behind (Says : List Char → α → Prop) (s : List Char) (value : α) : Prop :=
  ∃ front piece, s = front ++ piece ∧ Blanks front ∧ Says piece value

/-- A piece behind a colon, with blanks in front of the colon. -/
def BehindColon (Says : List Char → α → Prop) (s : List Char) (value : α) : Prop :=
  ∃ gap piece, s = gap ++ ':' :: piece ∧ Blanks gap ∧ Says piece value

/-- Every piece begins with a character that neither is a blank nor closes a list. -/
def Begins (Says : List Char → α → Prop) : Prop :=
  ∀ ⦃piece value⦄, Says piece value →
    ∃ c s, piece = c :: s ∧ isBlank c = false ∧ c ≠ ']'

section
variable {Says : List Char → α → Prop}

lemma Behind.of_piece {value : α} (said : Says s value) : Behind Says s value :=
  ⟨[], s, rfl, blanks_nil, said⟩

end

namespace Reader

theorem bind_eq_ok {x : Reader α} {f : α → Reader β} {b : β} :
    (x >>= f) s = .ok (b, rest) ↔ ∃ a t, x s = .ok (a, t) ∧ f a t = .ok (b, rest) := by
  refine Json.bind_eq_ok.trans ⟨?_, ?_⟩
  · rintro ⟨⟨a, t⟩, first, second⟩
    exact ⟨a, t, first, second⟩
  · rintro ⟨a, t, first, second⟩
    exact ⟨(a, t), first, second⟩

lemma bind_of_ok {x : Reader α} {f : α → Reader β} {a : α} (read : x s = .ok (a, t)) :
    (x >>= f) s = f a t := by
  change (x s).bind (fun read => f read.1 read.2) = f a t
  rw [read]
  rfl

theorem pure_eq_ok {a b : α} : (pure a : Reader α) s = .ok (b, rest) ↔ b = a ∧ rest = s := by
  refine ⟨?_, ?_⟩
  · intro eq
    cases eq
    exact ⟨rfl, rfl⟩
  · rintro ⟨rfl, rfl⟩
    rfl

lemma word_eq_ok {letters : List Char} :
    word letters s = .ok ((), rest) ↔ s = letters ++ rest := by
  induction letters generalizing s with
  | nil => exact pure_eq_ok.trans (by simp [eq_comm])
  | cons c letters ih =>
    cases s with
    | nil => simp [word]
    | cons d s =>
      simp only [word]
      split
      · next eq => simp [ih, eq]
      · next ne => simp [Ne.symm ne]

end Reader

lemma Sound.map {reader : Reader α} {Says : List Char → α → Prop} (sound : Sound reader Says)
    (f : α → β) :
    Sound (do return f (← reader)) fun piece b => ∃ a, Says piece a ∧ b = f a := by
  intro s b rest read
  obtain ⟨a, t, first, second⟩ := Reader.bind_eq_ok.1 read
  obtain ⟨rfl, rfl⟩ := Reader.pure_eq_ok.1 second
  obtain ⟨piece, rfl, said⟩ := sound first
  exact ⟨piece, rfl, a, said, rfl⟩

lemma Complete.map {reader : Reader α} {Says : List Char → α → Prop}
    (complete : Complete reader Says) (f : α → β) :
    Complete (do return f (← reader)) fun piece b => ∃ a, Says piece a ∧ b = f a := by
  rintro piece b rest ⟨a, said, rfl⟩ stop
  exact Reader.bind_eq_ok.2 ⟨a, rest, complete said stop, rfl⟩

lemma Sound.afterColon {reader : Reader α} {Says : List Char → α → Prop}
    (sound : Sound reader Says) : Sound (Reader.afterColon reader) (BehindColon Says) := by
  intro s value rest read
  unfold Reader.afterColon at read
  split at read
  · cases read
  · next c t eq =>
    obtain ⟨gap, rfl, blanks, -⟩ := skipBlank_eq_cons.1 eq
    split at read
    · next colon =>
      obtain ⟨piece, rfl, said⟩ := sound read
      exact ⟨gap ++ ':' :: piece, by simp [colon], gap, piece, rfl, blanks, said⟩
    · cases read

lemma Complete.afterColon {reader : Reader α} {Says : List Char → α → Prop}
    (complete : Complete reader Says) :
    Complete (Reader.afterColon reader) (BehindColon Says) := by
  rintro piece value rest ⟨gap, piece, rfl, blanks, said⟩ stop
  have colon : skipBlank (gap ++ ':' :: piece ++ rest) = ':' :: (piece ++ rest) := by
    rw [List.append_assoc, skipBlank_append blanks, List.cons_append, skipBlank_cons (by decide)]
  simp only [Reader.afterColon, colon, complete said stop, if_true]

/-! ## Values by how they begin -/

/-- The texts of scalars. -/
inductive SaysScalar : List Char → Json → Prop where
  | null : SaysScalar ['n', 'u', 'l', 'l'] .null
  | true : SaysScalar ['t', 'r', 'u', 'e'] (.bool true)
  | false : SaysScalar ['f', 'a', 'l', 's', 'e'] (.bool false)
  | number {s : List Char} {numeral : Numeral} {value : Number} :
      numeral.Spells s → numeral.number = .ok value → SaysScalar s (.number value)
  | text {s : List Char} {text : String} : SpellsText s text → SaysScalar s (.text text)

lemma number_sound : Sound Reader.number fun piece value => SaysScalar piece (.number value) := by
  intro s value rest read
  obtain ⟨⟨numeral, left⟩, numeral?, read⟩ := bind_eq_ok.1 read
  obtain ⟨value', value?, result⟩ := bind_eq_ok.1 read
  cases result
  obtain ⟨piece, rfl, spells⟩ := Numeral.spells_of_read numeral?
  exact ⟨piece, rfl, .number spells value?⟩

lemma Sound.imp {reader : Reader α} {Says Other : List Char → α → Prop} (sound : Sound reader Says)
    (imp : ∀ piece value, Says piece value → Other piece value) : Sound reader Other := by
  intro s value rest read
  obtain ⟨piece, rfl, said⟩ := sound read
  exact ⟨piece, rfl, imp piece value said⟩

lemma Sound.fail {fault : Fault} {Says : List Char → α → Prop} :
    Sound (Reader.fail fault) Says := by
  intro s value rest read
  cases read

lemma Sound.nested {inside : Nat → Reader α} {depth : Nat} {Says : List Char → α → Prop}
    (sound : ∀ left, depth = left + 1 → Sound (inside left) Says) :
    Sound (Reader.nested depth inside) Says := by
  cases depth with
  | zero => exact .fail
  | succ left => exact sound left rfl

section cases
variable {onScalar : Json → Reader α} {onList onObject : Reader α} {Says : List Char → α → Prop}

/-- A value is read by how it begins: a scalar was read before it is looked at, a list and an object
are read from behind their bracket. -/
theorem Sound.cases
    (scalars : ∀ {piece scalar}, SaysScalar piece scalar →
      Sound (onScalar scalar) fun more value => more = [] ∧ Says piece value)
    (lists : Sound onList fun piece value => Says ('[' :: piece) value)
    (objects : Sound onObject fun piece value => Says ('\x7b' :: piece) value) :
    Sound (Reader.cases onScalar onList onObject) (Behind Says) := by
  intro s value rest read
  unfold Reader.cases at read
  split at read
  · cases read
  · next c t eq =>
    obtain ⟨front, rfl, blanks, -⟩ := skipBlank_eq_cons.1 eq
    suffices ∃ piece, c :: t = piece ++ rest ∧ Says piece value by
      obtain ⟨piece, eq, said⟩ := this
      exact ⟨front ++ piece, by rw [eq, List.append_assoc], front, piece, rfl, blanks, said⟩
    have scalar {piece left : List Char} {held : Json} (said : SaysScalar piece held)
        (read : onScalar held left = .ok (value, rest)) :
        ∃ whole, piece ++ left = whole ++ rest ∧ Says whole value := by
      obtain ⟨_, rfl, rfl, said⟩ := scalars said read
      exact ⟨piece, rfl, said⟩
    split at read
    · obtain ⟨_, left, word?, read'⟩ := Reader.bind_eq_ok.1 read
      obtain rfl := Reader.word_eq_ok.1 word?
      exact scalar .null read'
    · obtain ⟨_, left, word?, read'⟩ := Reader.bind_eq_ok.1 read
      obtain rfl := Reader.word_eq_ok.1 word?
      exact scalar .true read'
    · obtain ⟨_, left, word?, read'⟩ := Reader.bind_eq_ok.1 read
      obtain rfl := Reader.word_eq_ok.1 word?
      exact scalar .false read'
    · obtain ⟨text, left, text?, read'⟩ := Reader.bind_eq_ok.1 read
      obtain ⟨body, rfl, spells⟩ := literal_eq_ok.1 text?
      have whole := scalar (.text (.quoted spells)) read'
      rwa [List.append_assoc] at whole
    · obtain ⟨piece, rfl, said⟩ := lists read
      exact ⟨'[' :: piece, rfl, said⟩
    · obtain ⟨piece, rfl, said⟩ := objects read
      exact ⟨'\x7b' :: piece, rfl, said⟩
    · split at read
      · obtain ⟨number, left, number?, read'⟩ := Reader.bind_eq_ok.1 read
        obtain ⟨piece, eq, said⟩ := number_sound number?
        rw [eq]
        exact scalar said read'
      · cases read

lemma isBlank_of_number (mark : c = '-' ∨ c.isDigit) : isBlank c = false := by
  by_contra blank
  simp only [isBlank, Bool.not_eq_false, Bool.or_eq_true, beq_iff_eq] at blank
  rcases blank with ((rfl | rfl) | rfl) | rfl <;> simp at mark

lemma cases_of_number (blanks : Blanks front) (mark : c = '-' ∨ c.isDigit) :
    Reader.cases onScalar onList onObject (front ++ c :: t) =
      (do onScalar (.number (← Reader.number))) (c :: t) := by
  rw [Reader.cases, skipBlank_append blanks, skipBlank_cons (isBlank_of_number mark)]
  simp only
  split
  case h_7 => rw [if_pos mark]
  all_goals simp at mark

lemma cases_of_scalar (blanks : Blanks front) {scalar : Json} (said : SaysScalar s scalar)
    (stop : Stops rest) :
    Reader.cases onScalar onList onObject (front ++ (s ++ rest)) = onScalar scalar rest := by
  cases said with
  | null =>
    rw [Reader.cases, skipBlank_append blanks, List.cons_append, skipBlank_cons (by decide)]
    rfl
  | true =>
    rw [Reader.cases, skipBlank_append blanks, List.cons_append, skipBlank_cons (by decide)]
    rfl
  | false =>
    rw [Reader.cases, skipBlank_append blanks, List.cons_append, skipBlank_cons (by decide)]
    rfl
  | @number _ numeral value spells value? =>
    obtain ⟨c, t, rfl, mark⟩ := spells.begins
    have number : Reader.number (c :: t ++ rest) = .ok (value, rest) :=
      bind_eq_ok.2 ⟨_, Numeral.read_of_spells spells stop, bind_eq_ok.2 ⟨_, value?, rfl⟩⟩
    rw [List.cons_append, cases_of_number blanks mark]
    rw [List.cons_append] at number
    exact Reader.bind_of_ok number
  | @text _ text spells =>
    obtain ⟨spells⟩ := spells
    have text? : literal (_ ++ '"' :: rest) = .ok (text, rest) :=
      literal_eq_ok.2 ⟨_, rfl, spells⟩
    rw [Reader.cases, skipBlank_append blanks, List.append_assoc, List.cons_append,
      skipBlank_cons (by decide)]
    exact Reader.bind_of_ok text?

lemma cases_of_list (blanks : Blanks front) :
    Reader.cases onScalar onList onObject (front ++ '[' :: rest) = onList rest := by
  rw [Reader.cases, skipBlank_append blanks, skipBlank_cons (by decide)]
  rfl

lemma cases_of_object (blanks : Blanks front) :
    Reader.cases onScalar onList onObject (front ++ '\x7b' :: rest) = onObject rest := by
  rw [Reader.cases, skipBlank_append blanks, skipBlank_cons (by decide)]
  rfl

end cases

lemma Sound.scalar {expected : String} {accept : Json → Option (Except Fault α)} :
    Sound (Reader.scalar expected accept)
      (Behind fun piece a => ∃ value, SaysScalar piece value ∧ accept value = some (.ok a)) := by
  refine .cases (fun {piece scalar} said => ?_) .fail .fail
  intro s value rest read
  rcases accepted : accept scalar with _ | held | fault
  · rw [accepted] at read
    cases read
  · rw [accepted] at read
    cases read
  · rw [accepted] at read
    obtain ⟨rfl, rfl⟩ := Reader.pure_eq_ok.1 read
    exact ⟨[], rfl, rfl, scalar, said, accepted⟩

lemma Complete.scalar {expected : String} {accept : Json → Option (Except Fault α)} :
    Complete (Reader.scalar expected accept)
      (Behind fun piece a => ∃ value, SaysScalar piece value ∧ accept value = some (.ok a)) := by
  rintro _ a rest ⟨front, piece, rfl, blanks, value, said, accepted⟩ stop
  rw [List.append_assoc, Reader.scalar, cases_of_scalar blanks said stop, accepted]
  rfl

/-- A text is read exactly where one is spelled. -/
lemma Sound.text : Sound Reader.text (Behind SpellsText) := by
  intro s text rest read
  obtain ⟨piece, rfl, front, piece, rfl, blanks, value, said, accepted⟩ := Sound.scalar read
  refine ⟨front ++ piece, rfl, front, piece, rfl, blanks, ?_⟩
  cases said with
  | text spells => cases accepted; exact spells
  | _ => cases accepted

lemma Complete.text : Complete Reader.text (Behind SpellsText) := by
  rintro _ text rest ⟨front, piece, rfl, blanks, spells⟩ stop
  exact Complete.scalar ⟨front, piece, rfl, blanks, .text text, .text spells, rfl⟩ stop

/-! ## Lists -/

/-- The texts of the items behind the first one: each behind a comma. -/
inductive TailOf (Says : List Char → α → Prop) : List Char → List α → Prop where
  | done {back : List Char} : Blanks back → TailOf Says back []
  | more {back front s t : List Char} {value : α} {values : List α} :
      Blanks back → Blanks front → Says s value → TailOf Says t values →
      TailOf Says (back ++ ',' :: (front ++ (s ++ t))) (value :: values)

/-- The texts between the brackets of a list. -/
inductive ItemsOf (Says : List Char → α → Prop) : List Char → List α → Prop where
  | none {blanks : List Char} : Blanks blanks → ItemsOf Says blanks []
  | some {front s t : List Char} {value : α} {values : List α} :
      Blanks front → Says s value → TailOf Says t values →
      ItemsOf Says (front ++ (s ++ t)) (value :: values)

section items
variable {Says : List Char → α → Prop} {item : Reader α} {values : List α}

/-- What is left where another item follows, or no more. -/
lemma moreItems_inv {first more : Bool} (read : Reader.moreItems first s = .ok (more, rest)) :
    ∃ back, Blanks back ∧
      ((more = false ∧ s = back ++ rest ∧ rest.head? = some ']') ∨
        (more = true ∧ first = true ∧ s = back ++ rest) ∨
        (more = true ∧ first = false ∧
          ∃ front, Blanks front ∧ s = back ++ ',' :: (front ++ rest))) := by
  unfold Reader.moreItems at read
  split at read
  · cases read
  · next c t eq =>
    obtain ⟨back, rfl, blanks, -⟩ := skipBlank_eq_cons.1 eq
    refine ⟨back, blanks, ?_⟩
    split at read
    · next closing =>
      cases read
      exact .inl ⟨rfl, rfl, congrArg some closing⟩
    · split at read
      · next first =>
        cases read
        exact .inr (.inl ⟨rfl, first, rfl⟩)
      · next notFirst =>
        split at read
        · next comma =>
          split at read
          · cases read
          · next d t' eq =>
            obtain ⟨front, rfl, blanks', -⟩ := skipBlank_eq_cons.1 eq
            split at read
            · cases read
            · cases read
              exact .inr (.inr ⟨rfl, by simpa using notFirst, front, blanks', by rw [comma]⟩)
        · cases read

lemma moreItems_end {first : Bool} (blanks : Blanks front) :
    Reader.moreItems first (front ++ ']' :: rest) = .ok (false, ']' :: rest) := by
  rw [Reader.moreItems, skipBlank_append blanks, skipBlank_cons (by decide)]
  rfl

lemma moreItems_first (blanks : Blanks front) (noBlank : isBlank c = false) (item : c ≠ ']') :
    Reader.moreItems true (front ++ c :: rest) = .ok (true, c :: rest) := by
  rw [Reader.moreItems, skipBlank_append blanks, skipBlank_cons noBlank]
  exact (if_neg item).trans (if_pos rfl)

lemma moreItems_next {back : List Char} (blanks : Blanks back) (blanks' : Blanks front)
    (noBlank : isBlank c = false) (item : c ≠ ']') :
    Reader.moreItems false (back ++ ',' :: (front ++ c :: rest)) = .ok (true, c :: rest) := by
  rw [Reader.moreItems, skipBlank_append blanks, skipBlank_cons (by decide)]
  simp only [skipBlank_append blanks', skipBlank_cons noBlank, if_neg item]
  rfl

lemma tailOf_of_itemsWithin (sound : Sound item (Behind Says)) {steps : Nat}
    (read : Reader.itemsWithin item steps false s = .ok (values, rest)) :
    ∃ body, s = body ++ rest ∧ rest.head? = some ']' ∧ TailOf Says body values := by
  induction steps generalizing s values with
  | zero => cases read
  | succ steps ih =>
    obtain ⟨more, t, more?, onward⟩ := Reader.bind_eq_ok.1 read
    obtain ⟨back, blanks, ⟨rfl, rfl, closing⟩ | ⟨_, first, _⟩ | ⟨rfl, _, front, blanks', rfl⟩⟩ :=
      moreItems_inv more?
    · obtain ⟨rfl, rfl⟩ := Reader.pure_eq_ok.1 onward
      exact ⟨back, rfl, closing, .done blanks⟩
    · cases first
    · obtain ⟨held, left, item?, onward⟩ := Reader.bind_eq_ok.1 onward
      obtain ⟨later, left', within, result⟩ := Reader.bind_eq_ok.1 onward
      obtain ⟨rfl, rfl⟩ := Reader.pure_eq_ok.1 result
      obtain ⟨_, rfl, front', piece, rfl, blanks'', said⟩ := sound item?
      obtain ⟨body, rfl, closing, tail⟩ := ih within
      refine ⟨_, ?_, closing, .more blanks (blanks'.append blanks'') said tail⟩
      simp only [List.append_assoc, List.cons_append]

lemma listEnd_eq_ok :
    Reader.listEnd s = .ok ((), rest) ↔ ∃ front, s = front ++ ']' :: rest ∧ Blanks front := by
  constructor
  · intro read
    unfold Reader.listEnd at read
    split at read
    · cases read
    · next c t eq =>
      obtain ⟨front, rfl, blanks, -⟩ := skipBlank_eq_cons.1 eq
      split at read
      · next closing =>
        cases read
        exact ⟨front, by rw [closing], blanks⟩
      · split at read <;> cases read
  · rintro ⟨front, rfl, blanks⟩
    rw [Reader.listEnd, skipBlank_append blanks, skipBlank_cons (by decide)]
    rfl

/-- The closing bracket, where a text begins with it. -/
lemma listEnd_of_head (closing : s.head? = some ']') (read : Reader.listEnd s = .ok ((), rest)) :
    s = ']' :: rest := by
  obtain ⟨t, rfl⟩ := List.head?_eq_some_iff.1 closing
  have closed : Reader.listEnd (']' :: t) = .ok ((), t) := listEnd_eq_ok.2 ⟨[], rfl, blanks_nil⟩
  rw [read] at closed
  cases closed
  rfl

/-- What the items of a list are read from, with the closing bracket. -/
theorem Sound.items (sound : Sound item (Behind Says)) :
    Sound (Reader.items item)
      fun piece values => ∃ body, piece = body ++ [']'] ∧ ItemsOf Says body values := by
  intro s values rest read
  obtain ⟨held, left, within, ending⟩ := Reader.bind_eq_ok.1 read
  obtain ⟨_, left', closed, result⟩ := Reader.bind_eq_ok.1 ending
  obtain ⟨rfl, rfl⟩ := Reader.pure_eq_ok.1 result
  suffices ∃ body, s = body ++ left ∧ left.head? = some ']' ∧ ItemsOf Says body values by
    obtain ⟨body, rfl, closing, items⟩ := this
    rw [listEnd_of_head closing closed]
    exact ⟨body ++ [']'], by simp, body, rfl, items⟩
  obtain ⟨more, t, more?, onward⟩ := Reader.bind_eq_ok.1 within
  obtain ⟨back, blanks, ⟨rfl, rfl, closing⟩ | ⟨rfl, _, rfl⟩ | ⟨_, first, _⟩⟩ := moreItems_inv more?
  · obtain ⟨rfl, rfl⟩ := Reader.pure_eq_ok.1 onward
    exact ⟨back, rfl, closing, .none blanks⟩
  · obtain ⟨value, t', item?, onward⟩ := Reader.bind_eq_ok.1 onward
    obtain ⟨later, t'', within', result'⟩ := Reader.bind_eq_ok.1 onward
    obtain ⟨rfl, rfl⟩ := Reader.pure_eq_ok.1 result'
    obtain ⟨_, rfl, front, piece, rfl, blanks', said⟩ := sound item?
    obtain ⟨body, rfl, closing, tail⟩ := tailOf_of_itemsWithin sound within'
    refine ⟨_, ?_, closing, .some (blanks.append blanks') said tail⟩
    simp only [List.append_assoc]
  · cases first

lemma TailOf.stops (tail : TailOf Says s values) : Stops (s ++ ']' :: rest) := by
  cases tail with
  | done blanks => exact stops_append blanks (stops_cons (by decide) (by decide))
  | more blanks =>
    rw [List.append_assoc]
    exact stops_append blanks (stops_cons (by decide) (by decide))

lemma itemsWithin_of_tail (complete : Complete item (Behind Says)) (begins : Begins Says)
    (tail : TailOf Says s values) {steps : Nat} (enough : s.length < steps) :
    Reader.itemsWithin item steps false (s ++ ']' :: rest) = .ok (values, ']' :: rest) := by
  induction tail generalizing steps with
  | done blanks =>
    obtain ⟨steps, rfl⟩ := Nat.exists_eq_succ_of_ne_zero (Nat.ne_zero_of_lt enough)
    exact Reader.bind_of_ok (moreItems_end blanks)
  | @more back front s t value values blanks blanks' said tail ih =>
    obtain ⟨steps, rfl⟩ := Nat.exists_eq_succ_of_ne_zero (Nat.ne_zero_of_lt enough)
    have stop : Stops (t ++ ']' :: rest) := tail.stops
    have item? := complete (.of_piece said) stop
    obtain ⟨c, s, rfl, noBlank, item⟩ := begins said
    simp only [List.length_append, List.length_cons] at enough
    simp only [List.append_assoc, List.cons_append] at item? ⊢
    refine (Reader.bind_of_ok (moreItems_next blanks blanks' noBlank item)).trans ?_
    refine (Reader.bind_of_ok item?).trans ?_
    exact Reader.bind_of_ok (ih (by omega))

/-- Every list that is made of pieces the item reader takes is read. -/
theorem Complete.items (complete : Complete item (Behind Says)) (begins : Begins Says) :
    Complete (Reader.items item)
      fun piece values => ∃ body, piece = body ++ [']'] ∧ ItemsOf Says body values := by
  rintro _ values rest ⟨body, rfl, items⟩ -
  suffices ∀ steps, body.length < steps →
      Reader.itemsWithin item steps true (body ++ ']' :: rest) = .ok (values, ']' :: rest) by
    have enough : body.length < (body ++ ']' :: rest).length + 1 := by
      rw [List.length_append]
      omega
    rw [List.append_assoc, List.singleton_append]
    refine (Reader.bind_of_ok (this _ enough)).trans ?_
    exact Reader.bind_of_ok (listEnd_eq_ok.2 ⟨[], rfl, blanks_nil⟩)
  intro steps enough
  obtain ⟨steps, rfl⟩ := Nat.exists_eq_succ_of_ne_zero (Nat.ne_zero_of_lt enough)
  cases items with
  | none blanks => exact Reader.bind_of_ok (moreItems_end blanks)
  | @some front s t value values blanks said tail =>
    have stop : Stops (t ++ ']' :: rest) := tail.stops
    have item? := complete (.of_piece said) stop
    obtain ⟨c, s, rfl, noBlank, item⟩ := begins said
    simp only [List.length_append, List.length_cons] at enough
    simp only [List.append_assoc, List.cons_append] at item? ⊢
    refine (Reader.bind_of_ok (moreItems_first blanks noBlank item)).trans ?_
    refine (Reader.bind_of_ok item?).trans ?_
    exact Reader.bind_of_ok (itemsWithin_of_tail complete begins tail (by omega))

end items

/-! ## Objects -/

/-- The texts of the members behind the first one: each behind a comma. `Steps` says how the text
behind a name changes what was gathered. -/
inductive MembersTail (Steps : σ → String → List Char → σ → Prop) : σ → List Char → σ → Prop where
  | done {back : List Char} {held : σ} : Blanks back → MembersTail Steps held back held
  | more {back front name s t : List Char} {key : String} {held next last : σ} :
      Blanks back → Blanks front → SpellsText name key → Steps held key s next →
      MembersTail Steps next t last →
      MembersTail Steps held (back ++ ',' :: (front ++ (name ++ (s ++ t)))) last

/-- The texts between the brackets of an object. -/
inductive MembersOf (Steps : σ → String → List Char → σ → Prop) : σ → List Char → σ → Prop where
  | none {blanks : List Char} {held : σ} : Blanks blanks → MembersOf Steps held blanks held
  | some {front name s t : List Char} {key : String} {held next last : σ} :
      Blanks front → SpellsText name key → Steps held key s next → MembersTail Steps next t last →
      MembersOf Steps held (front ++ (name ++ (s ++ t))) last

section members
variable {Steps : σ → String → List Char → σ → Prop} {member : σ → String → Reader σ}
  {held last : σ}

/-- What is left where another member follows, or no more. -/
lemma moreMembers_inv {first more : Bool} (read : Reader.moreMembers first s = .ok (more, rest)) :
    ∃ back, Blanks back ∧
      ((more = false ∧ s = back ++ rest ∧ rest.head? = some '\x7d') ∨
        (more = true ∧ first = true ∧ s = back ++ '"' :: rest) ∨
        (more = true ∧ first = false ∧
          ∃ front, Blanks front ∧ s = back ++ ',' :: (front ++ '"' :: rest))) := by
  unfold Reader.moreMembers at read
  split at read
  · cases read
  · next c t eq =>
    obtain ⟨back, rfl, blanks, -⟩ := skipBlank_eq_cons.1 eq
    refine ⟨back, blanks, ?_⟩
    split at read
    · next closing =>
      cases read
      exact .inl ⟨rfl, rfl, congrArg some closing⟩
    · split at read
      · next first =>
        split at read
        · next quote =>
          cases read
          exact .inr (.inl ⟨rfl, first, by rw [quote]⟩)
        · cases read
      · next notFirst =>
        split at read
        · next comma =>
          split at read
          · cases read
          · next d t' eq =>
            obtain ⟨front, rfl, blanks', -⟩ := skipBlank_eq_cons.1 eq
            split at read
            · next quote =>
              cases read
              exact .inr (.inr ⟨rfl, by simpa using notFirst, front, blanks', by rw [comma, quote]⟩)
            · split at read <;> cases read
        · cases read

lemma moreMembers_end {first : Bool} (blanks : Blanks front) :
    Reader.moreMembers first (front ++ '\x7d' :: rest) = .ok (false, '\x7d' :: rest) := by
  rw [Reader.moreMembers, skipBlank_append blanks, skipBlank_cons (by decide)]
  rfl

lemma moreMembers_first (blanks : Blanks front) :
    Reader.moreMembers true (front ++ '"' :: rest) = .ok (true, rest) := by
  rw [Reader.moreMembers, skipBlank_append blanks, skipBlank_cons (by decide)]
  rfl

lemma moreMembers_next {back : List Char} (blanks : Blanks back) (blanks' : Blanks front) :
    Reader.moreMembers false (back ++ ',' :: (front ++ '"' :: rest)) = .ok (true, rest) := by
  rw [Reader.moreMembers, skipBlank_append blanks, skipBlank_cons (by decide)]
  simp only [skipBlank_append blanks', skipBlank_cons (show isBlank '"' = false by decide)]
  rfl

lemma objectEnd_eq_ok :
    Reader.objectEnd s = .ok ((), rest) ↔ ∃ front, s = front ++ '\x7d' :: rest ∧ Blanks front := by
  constructor
  · intro read
    unfold Reader.objectEnd at read
    split at read
    · cases read
    · next c t eq =>
      obtain ⟨front, rfl, blanks, -⟩ := skipBlank_eq_cons.1 eq
      split at read
      · next closing =>
        cases read
        exact ⟨front, by rw [closing], blanks⟩
      · split at read <;> cases read
  · rintro ⟨front, rfl, blanks⟩
    rw [Reader.objectEnd, skipBlank_append blanks, skipBlank_cons (by decide)]
    rfl

/-- The closing bracket, where a text begins with it. -/
lemma objectEnd_of_head (closing : s.head? = some '\x7d')
    (read : Reader.objectEnd s = .ok ((), rest)) : s = '\x7d' :: rest := by
  obtain ⟨t, rfl⟩ := List.head?_eq_some_iff.1 closing
  have closed : Reader.objectEnd ('\x7d' :: t) = .ok ((), t) :=
    objectEnd_eq_ok.2 ⟨[], rfl, blanks_nil⟩
  rw [read] at closed
  cases closed
  rfl

lemma membersTail_of_membersWithin (sound : ∀ held name, Sound (member held name) (Steps held name))
    {steps : Nat} (read : Reader.membersWithin member steps false held s = .ok (last, rest)) :
    ∃ body, s = body ++ rest ∧ rest.head? = some '\x7d' ∧ MembersTail Steps held body last := by
  induction steps generalizing s held with
  | zero => cases read
  | succ steps ih =>
    obtain ⟨more, t, more?, onward⟩ := Reader.bind_eq_ok.1 read
    obtain ⟨back, blanks, ⟨rfl, rfl, closing⟩ | ⟨_, first, _⟩ | ⟨rfl, _, front, blanks', rfl⟩⟩ :=
      moreMembers_inv more?
    · obtain ⟨rfl, rfl⟩ := Reader.pure_eq_ok.1 onward
      exact ⟨back, rfl, closing, .done blanks⟩
    · cases first
    · obtain ⟨name, left, name?, onward⟩ := Reader.bind_eq_ok.1 onward
      obtain ⟨next, left', member?, within⟩ := Reader.bind_eq_ok.1 onward
      obtain ⟨body, rfl, spells⟩ := literal_eq_ok.1 name?
      obtain ⟨piece, rfl, step⟩ := sound _ _ member?
      obtain ⟨body', rfl, closing, tail⟩ := ih within
      refine ⟨_, ?_, closing, .more blanks blanks' (.quoted spells) step tail⟩
      simp only [List.append_assoc, List.cons_append, List.nil_append]

/-- What the members of an object are read from, with the closing bracket. -/
theorem Sound.members (sound : ∀ held name, Sound (member held name) (Steps held name))
    (start : σ) :
    Sound (Reader.members member start)
      fun piece last => ∃ body, piece = body ++ ['\x7d'] ∧ MembersOf Steps start body last := by
  intro s last rest read
  obtain ⟨held, left, within, ending⟩ := Reader.bind_eq_ok.1 read
  obtain ⟨_, left', closed, result⟩ := Reader.bind_eq_ok.1 ending
  obtain ⟨rfl, rfl⟩ := Reader.pure_eq_ok.1 result
  suffices ∃ body, s = body ++ left ∧ left.head? = some '\x7d' ∧ MembersOf Steps start body last by
    obtain ⟨body, rfl, closing, members⟩ := this
    rw [objectEnd_of_head closing closed]
    exact ⟨body ++ ['\x7d'], by simp, body, rfl, members⟩
  obtain ⟨more, t, more?, onward⟩ := Reader.bind_eq_ok.1 within
  obtain ⟨back, blanks, ⟨rfl, rfl, closing⟩ | ⟨rfl, _, rfl⟩ | ⟨_, first, _⟩⟩ :=
    moreMembers_inv more?
  · obtain ⟨rfl, rfl⟩ := Reader.pure_eq_ok.1 onward
    exact ⟨back, rfl, closing, .none blanks⟩
  · obtain ⟨name, t', name?, onward⟩ := Reader.bind_eq_ok.1 onward
    obtain ⟨next, t'', member?, within'⟩ := Reader.bind_eq_ok.1 onward
    obtain ⟨body, rfl, spells⟩ := literal_eq_ok.1 name?
    obtain ⟨piece, rfl, step⟩ := sound _ _ member?
    obtain ⟨body', rfl, closing, tail⟩ := membersTail_of_membersWithin sound within'
    refine ⟨_, ?_, closing, .some blanks (.quoted spells) step tail⟩
    simp only [List.append_assoc, List.cons_append, List.nil_append]
  · cases first

lemma MembersTail.stops (tail : MembersTail Steps held s last) : Stops (s ++ '\x7d' :: rest) := by
  cases tail with
  | done blanks => exact stops_append blanks (stops_cons (by decide) (by decide))
  | more blanks =>
    rw [List.append_assoc]
    exact stops_append blanks (stops_cons (by decide) (by decide))

lemma membersWithin_of_tail (complete : ∀ held name, Complete (member held name) (Steps held name))
    (tail : MembersTail Steps held s last) {steps : Nat} (enough : s.length < steps) :
    Reader.membersWithin member steps false held (s ++ '\x7d' :: rest) =
      .ok (last, '\x7d' :: rest) := by
  induction tail generalizing steps with
  | done blanks =>
    obtain ⟨steps, rfl⟩ := Nat.exists_eq_succ_of_ne_zero (Nat.ne_zero_of_lt enough)
    exact Reader.bind_of_ok (moreMembers_end blanks)
  | @more back front name s t key held next last blanks blanks' spells step tail ih =>
    obtain ⟨steps, rfl⟩ := Nat.exists_eq_succ_of_ne_zero (Nat.ne_zero_of_lt enough)
    have stop : Stops (t ++ '\x7d' :: rest) := tail.stops
    have member? := complete _ _ step stop
    obtain ⟨spells⟩ := spells
    simp only [List.length_append, List.length_cons] at enough
    simp only [List.append_assoc, List.cons_append, List.nil_append] at member? ⊢
    refine (Reader.bind_of_ok (moreMembers_next blanks blanks')).trans ?_
    refine (Reader.bind_of_ok (literal_eq_ok.2 ⟨_, rfl, spells⟩)).trans ?_
    refine (Reader.bind_of_ok member?).trans ?_
    exact ih (by omega)

/-- Every object that is made of pieces the member reader takes is read. -/
theorem Complete.members (complete : ∀ held name, Complete (member held name) (Steps held name))
    (start : σ) :
    Complete (Reader.members member start)
      fun piece last => ∃ body, piece = body ++ ['\x7d'] ∧ MembersOf Steps start body last := by
  rintro _ last rest ⟨body, rfl, members⟩ -
  suffices ∀ steps, body.length < steps →
      Reader.membersWithin member steps true start (body ++ '\x7d' :: rest) =
        .ok (last, '\x7d' :: rest) by
    have enough : body.length < (body ++ '\x7d' :: rest).length + 1 := by
      rw [List.length_append]
      omega
    rw [List.append_assoc, List.singleton_append]
    refine (Reader.bind_of_ok (this _ enough)).trans ?_
    exact Reader.bind_of_ok (objectEnd_eq_ok.2 ⟨[], rfl, blanks_nil⟩)
  intro steps enough
  obtain ⟨steps, rfl⟩ := Nat.exists_eq_succ_of_ne_zero (Nat.ne_zero_of_lt enough)
  cases members with
  | none blanks => exact Reader.bind_of_ok (moreMembers_end blanks)
  | @some front name s t key held next last blanks spells step tail =>
    have stop : Stops (t ++ '\x7d' :: rest) := tail.stops
    have member? := complete _ _ step stop
    obtain ⟨spells⟩ := spells
    simp only [List.length_append, List.length_cons] at enough
    simp only [List.append_assoc, List.cons_append, List.nil_append] at member? ⊢
    refine (Reader.bind_of_ok (moreMembers_first blanks)).trans ?_
    refine (Reader.bind_of_ok (literal_eq_ok.2 ⟨_, rfl, spells⟩)).trans ?_
    refine (Reader.bind_of_ok member?).trans ?_
    exact membersWithin_of_tail complete tail (by omega)

/-- Members change one thing as they change another if each of them does. -/
lemma MembersTail.imp {Other : τ → String → List Char → τ → Prop} {Alike : σ → τ → Prop}
    (imp : ∀ held name piece next other, Alike held other → Steps held name piece next →
      ∃ next', Alike next next' ∧ Other other name piece next')
    (tail : MembersTail Steps held s last) {other : τ} (alike : Alike held other) :
    ∃ last', Alike last last' ∧ MembersTail Other other s last' := by
  induction tail generalizing other with
  | done blanks => exact ⟨other, alike, .done blanks⟩
  | more blanks blanks' spells step _ ih =>
    obtain ⟨next, alike, step⟩ := imp _ _ _ _ _ alike step
    obtain ⟨last, alike, tail⟩ := ih alike
    exact ⟨last, alike, .more blanks blanks' spells step tail⟩

lemma MembersOf.imp {Other : τ → String → List Char → τ → Prop} {Alike : σ → τ → Prop}
    (imp : ∀ held name piece next other, Alike held other → Steps held name piece next →
      ∃ next', Alike next next' ∧ Other other name piece next')
    (members : MembersOf Steps held s last) {other : τ} (alike : Alike held other) :
    ∃ last', Alike last last' ∧ MembersOf Other other s last' := by
  cases members with
  | none blanks => exact ⟨other, alike, .none blanks⟩
  | some blanks spells step tail =>
    obtain ⟨next, alike, step⟩ := imp _ _ _ _ _ alike step
    obtain ⟨last, alike, tail⟩ := tail.imp imp alike
    exact ⟨last, alike, .some blanks spells step tail⟩

end members

end DisclosureRelay.Json
