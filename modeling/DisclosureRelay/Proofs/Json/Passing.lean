import DisclosureRelay.Proofs.Json.Reader

/-!
# What is passed over

The grammar of values that are passed over, which is looser than that of values that are kept: half
of a surrogate pair may stand in a text, brackets nest to any depth, and numbers need not be in
range. `skip_sound` says that `skip` passes over a value of that grammar. Between two steps, `skip`
knows the brackets that are open; `Closes` says what the text has to be up to the last closing one.
-/

namespace DisclosureRelay.Json

open Reader (Bracket.closing)

variable {s t front rest : List Char} {bracket : Bracket} {outer : List Bracket}

/-! ## The grammar -/

/-- The texts of characters inside a literal that is passed over. -/
inductive PassesChars : List Char → Prop where
  | nil : PassesChars []
  | plain {c : Char} {t : List Char} :
      c ≠ '"' → c ≠ '\\' → 32 ≤ c.toNat → PassesChars t → PassesChars (c :: t)
  | short {letter c : Char} {t : List Char} :
      (letter, c) ∈ shortEscapes → PassesChars t → PassesChars ('\\' :: letter :: t)
  | unit {unit : Nat} {a b c d : Char} {t : List Char} :
      Text.Hex.value? [a, b, c, d] = some unit → PassesChars t →
      PassesChars ('\\' :: 'u' :: a :: b :: c :: d :: t)

/-- The literals that are passed over. -/
inductive PassesText : List Char → Prop where
  | quoted {s : List Char} : PassesChars s → PassesText ('"' :: s ++ ['"'])

/-- What stands in front of a value inside a bracket: a name and a colon in an object. -/
inductive PassesName : Bracket → List Char → Prop where
  | list {front : List Char} : Blanks front → PassesName .list front
  | object {front name gap front' : List Char} :
      Blanks front → PassesText name → Blanks gap → Blanks front' →
      PassesName .object (front ++ (name ++ (gap ++ ':' :: front')))

/-- The character that opens a bracket. -/
def Bracket.opening : Bracket → Char
  | .list => '['
  | .object => '\x7b'

mutual

/-- The values that are passed over. -/
inductive Passes : List Char → Prop where
  | null : Passes ['n', 'u', 'l', 'l']
  | true : Passes ['t', 'r', 'u', 'e']
  | false : Passes ['f', 'a', 'l', 's', 'e']
  | number {s : List Char} {numeral : Numeral} : numeral.Spells s → Passes s
  | text {s : List Char} : PassesText s → Passes s
  | none {bracket : Bracket} {blanks : List Char} :
      Blanks blanks → Passes (bracket.opening :: (blanks ++ [Bracket.closing bracket]))
  | some {bracket : Bracket} {s : List Char} :
      PassesEntries bracket s → Passes (bracket.opening :: (s ++ [Bracket.closing bracket]))

/-- The values inside a bracket, of which there is one at least. -/
inductive PassesEntries : Bracket → List Char → Prop where
  | last {bracket : Bracket} {name s back : List Char} :
      PassesName bracket name → Passes s → Blanks back →
      PassesEntries bracket (name ++ (s ++ back))
  | more {bracket : Bracket} {name s back t : List Char} :
      PassesName bracket name → Passes s → Blanks back → PassesEntries bracket t →
      PassesEntries bracket (name ++ (s ++ (back ++ ',' :: t)))

end

/-! ## Open brackets -/

/-- What has to follow behind a value for all open brackets, the innermost first, to be closed. -/
inductive Closes : List Bracket → List Char → Prop where
  | nil : Closes [] []
  | close {bracket : Bracket} {outer : List Bracket} {back t : List Char} :
      Blanks back → Closes outer t →
      Closes (bracket :: outer) (back ++ Bracket.closing bracket :: t)
  | more {bracket : Bracket} {outer : List Bracket} {back name s t : List Char} :
      Blanks back → PassesName bracket name → Passes s → Closes (bracket :: outer) t →
      Closes (bracket :: outer) (back ++ ',' :: (name ++ (s ++ t)))

/-- What has to follow in front of a value. -/
inductive ClosesBefore (outer : List Bracket) : List Char → Prop where
  | value {front s t : List Char} :
      Blanks front → Passes s → Closes outer t → ClosesBefore outer (front ++ (s ++ t))

/-- What has to follow behind an opening bracket. -/
inductive ClosesOpened : List Bracket → List Char → Prop where
  | nil : ClosesOpened [] []
  | close {bracket : Bracket} {outer : List Bracket} {back t : List Char} :
      Blanks back → Closes outer t →
      ClosesOpened (bracket :: outer) (back ++ Bracket.closing bracket :: t)
  | more {bracket : Bracket} {outer : List Bracket} {name s t : List Char} :
      PassesName bracket name → Passes s → Closes (bracket :: outer) t →
      ClosesOpened (bracket :: outer) (name ++ (s ++ t))

/-- What has to follow at a place. -/
def ClosesAt : Place → List Bracket → List Char → Prop
  | .before => ClosesBefore
  | .opened => ClosesOpened
  | .behind => Closes

lemma PassesName.append {name : List Char} (blanks : Blanks front)
    (passes : PassesName bracket name) : PassesName bracket (front ++ name) := by
  cases passes with
  | list blanks' => exact .list (blanks.append blanks')
  | object front? name? gap? front'? =>
    rw [← List.append_assoc]
    exact .object (blanks.append front?) name? gap? front'?

lemma PassesName.behind {name : List Char} (passes : PassesName bracket name)
    (blanks : Blanks front) : PassesName bracket (name ++ front) := by
  cases passes with
  | list blanks' => exact .list (blanks'.append blanks)
  | object front? name? gap? front'? =>
    have behind := PassesName.object front? name? gap? (front'?.append blanks)
    simpa only [List.append_assoc, List.cons_append] using behind

/-- Behind a value inside a bracket there are the other values inside it, and then what is
outside. -/
lemma Closes.entries (closes : Closes (bracket :: outer) t) {name : List Char}
    (name? : PassesName bracket name) (passes : Passes s) :
    ∃ entries t', name ++ (s ++ t) = entries ++ Bracket.closing bracket :: t' ∧
      PassesEntries bracket entries ∧ Closes outer t' := by
  generalize eq : bracket :: outer = brackets at closes
  induction closes generalizing name s with
  | nil => cases eq
  | close blanks closes =>
    cases eq
    exact ⟨_, _, by simp only [List.append_assoc], .last name? passes blanks, closes⟩
  | more blanks name?' passes' closes ih =>
    cases eq
    obtain ⟨entries, t', eq, entries?, closes'⟩ := ih name?' passes' rfl
    refine ⟨_, t', ?_, .more name? passes blanks entries?, closes'⟩
    rw [eq]
    simp only [List.append_assoc, List.cons_append]

/-- A bracket that was opened is a value with everything up to where it is closed. -/
lemma ClosesOpened.value (opened : ClosesOpened (bracket :: outer) t) :
    ∃ s t', bracket.opening :: t = s ++ t' ∧ Passes s ∧ Closes outer t' := by
  cases opened with
  | close blanks closes =>
    exact ⟨bracket.opening :: (_ ++ [Bracket.closing bracket]), _, by simp, .none blanks, closes⟩
  | more name? passes closes =>
    obtain ⟨entries, t', eq, entries?, closes'⟩ := closes.entries name? passes
    exact ⟨_, t', by simp [eq], .some entries?, closes'⟩

/-! ## Passing over -/

lemma skipLiteral_sound (read : skipLiteral s = .ok ((), rest)) :
    ∃ body, s = body ++ '"' :: rest ∧ PassesChars body := by
  obtain ⟨⟨cs, left⟩, within, result⟩ := bind_eq_ok.1 read
  cases result
  refine row_of_literalWithin (fun body _ => PassesChars body) .nil .plain (fun escape => ?_) within
  rcases escapeBy_inv escape with ⟨letter, rfl, short⟩ | ⟨t, rfl, unicode⟩
  · exact ⟨[letter], rfl, .short short⟩
  · obtain ⟨⟨unit, left⟩, unit?, result⟩ := bind_eq_ok.1 unicode
    obtain ⟨a, b, c, d, rfl, value⟩ := codeUnit_eq_ok.1 unit?
    cases result
    exact ⟨['u', a, b, c, d], rfl, .unit value⟩

lemma skipName_sound (read : Reader.skipName bracket s = .ok ((), rest)) :
    ∃ name, s = name ++ rest ∧ PassesName bracket name := by
  cases bracket with
  | list =>
    obtain ⟨-, rfl⟩ := Reader.pure_eq_ok.1 read
    exact ⟨[], rfl, .list blanks_nil⟩
  | object =>
    simp only [Reader.skipName] at read
    split at read
    · cases read
    · next c t eq =>
      obtain ⟨front, rfl, blanks, -⟩ := skipBlank_eq_cons.1 eq
      split at read
      · next quote =>
        obtain ⟨_, left, name?, colon⟩ := Reader.bind_eq_ok.1 read
        obtain ⟨body, rfl, passes⟩ := skipLiteral_sound name?
        have sound : Sound (pure () : Reader Unit) fun piece _ => piece = [] := by
          intro s _ rest result
          obtain ⟨-, rfl⟩ := Reader.pure_eq_ok.1 result
          exact ⟨[], rfl, rfl⟩
        obtain ⟨_, rfl, gap, _, rfl, gap?, rfl⟩ := sound.afterColon colon
        exact ⟨_, by simp [quote], .object blanks (.quoted passes) gap? blanks_nil⟩
      · cases read

/-- A reader that passes over a scalar, of which nothing is returned. -/
lemma passed_eq_ok {reader : Reader Unit} {head : Option Bracket} :
    (do reader; return none) s = .ok (head, rest) ↔ head = none ∧ reader s = .ok ((), rest) := by
  rw [Reader.bind_eq_ok]
  constructor
  · rintro ⟨_, _, passed, result⟩
    obtain ⟨rfl, rfl⟩ := Reader.pure_eq_ok.1 result
    exact ⟨rfl, passed⟩
  · rintro ⟨rfl, passed⟩
    exact ⟨(), rest, passed, rfl⟩

lemma skipNumber_sound (read : Reader.skipNumber s = .ok ((), rest)) :
    ∃ piece, s = piece ++ rest ∧ Passes piece := by
  unfold Reader.skipNumber at read
  split at read
  · next numeral left numeral? =>
    cases read
    obtain ⟨piece, eq, spells⟩ := Numeral.spells_of_read numeral?
    exact ⟨piece, eq, .number spells⟩
  · cases read

/-- A scalar is passed over, or a bracket is opened. -/
lemma skipHead_sound {head : Option Bracket} (read : Reader.skipHead s = .ok (head, rest)) :
    ∃ front, Blanks front ∧
      ((head = none ∧ ∃ piece, s = front ++ (piece ++ rest) ∧ Passes piece) ∨
        ∃ bracket, head = some bracket ∧ s = front ++ bracket.opening :: rest) := by
  unfold Reader.skipHead at read
  split at read
  · cases read
  · next c t eq =>
    obtain ⟨front, rfl, blanks, -⟩ := skipBlank_eq_cons.1 eq
    refine ⟨front, blanks, ?_⟩
    split at read
    · obtain ⟨rfl, word?⟩ := passed_eq_ok.1 read
      obtain rfl := Reader.word_eq_ok.1 word?
      exact .inl ⟨rfl, _, rfl, .null⟩
    · obtain ⟨rfl, word?⟩ := passed_eq_ok.1 read
      obtain rfl := Reader.word_eq_ok.1 word?
      exact .inl ⟨rfl, _, rfl, .true⟩
    · obtain ⟨rfl, word?⟩ := passed_eq_ok.1 read
      obtain rfl := Reader.word_eq_ok.1 word?
      exact .inl ⟨rfl, _, rfl, .false⟩
    · obtain ⟨rfl, text?⟩ := passed_eq_ok.1 read
      obtain ⟨body, rfl, passes⟩ := skipLiteral_sound text?
      exact .inl ⟨rfl, _, by simp, .text (.quoted passes)⟩
    · cases read
      exact .inr ⟨.list, rfl, rfl⟩
    · cases read
      exact .inr ⟨.object, rfl, rfl⟩
    · split at read
      · obtain ⟨rfl, number?⟩ := passed_eq_ok.1 read
        obtain ⟨piece, eq, passes⟩ := skipNumber_sound number?
        exact .inl ⟨rfl, piece, by rw [eq], passes⟩
      · cases read

/-- What follows inside a bracket: the closing one or the next value, which stands behind a comma
unless it is the first one. -/
lemma skipWithin_inv {place : Place} {steps : Nat} (inside : place ≠ .before)
    (read : Reader.skipWithin (steps + 1) place (bracket :: outer) s = .ok ((), rest)) :
    let entry := do Reader.skipName bracket; Reader.skipWithin steps .before (bracket :: outer)
    ∃ back c t, Blanks back ∧ s = back ++ c :: t ∧
      ((c = Bracket.closing bracket ∧
          Reader.skipWithin steps .behind outer t = .ok ((), rest)) ∨
        (place = .opened ∧ entry (c :: t) = .ok ((), rest)) ∨
        (place ≠ .opened ∧ c = ',' ∧ entry t = .ok ((), rest))) := by
  rw [Reader.skipWithin] at read
  swap
  · exact inside
  beta_reduce at read
  split at read
  · cases read
  · next c t eq =>
    obtain ⟨back, rfl, blanks, -⟩ := skipBlank_eq_cons.1 eq
    refine ⟨back, c, t, blanks, rfl, ?_⟩
    split at read
    · next closing => exact .inl ⟨closing, read⟩
    · split at read
      · next opened => exact .inr (.inl ⟨opened, read⟩)
      · next behind =>
        split at read
        · next comma => exact .inr (.inr ⟨behind, comma, read⟩)
        · cases read

/-- The next value inside a bracket, if what follows in front of it is known. -/
lemma skipEntry_sound {steps : Nat}
    (ih : ∀ {s}, Reader.skipWithin steps .before (bracket :: outer) s = .ok ((), rest) →
      ∃ piece, s = piece ++ rest ∧ ClosesAt .before (bracket :: outer) piece)
    (read : (do Reader.skipName bracket; Reader.skipWithin steps .before (bracket :: outer)) s =
      .ok ((), rest)) :
    ∃ name piece t, s = name ++ (piece ++ (t ++ rest)) ∧ PassesName bracket name ∧ Passes piece ∧
      Closes (bracket :: outer) t := by
  obtain ⟨_, left, name?, onward⟩ := Reader.bind_eq_ok.1 read
  obtain ⟨name, rfl, passesName⟩ := skipName_sound name?
  obtain ⟨_, rfl, ⟨blanks, passes, closes⟩⟩ := ih onward
  refine ⟨_, _, _, ?_, passesName.behind blanks, passes, closes⟩
  simp only [List.append_assoc]

/-- From every place, what is passed over closes all open brackets. -/
lemma skipWithin_sound {place : Place} {steps : Nat}
    (read : Reader.skipWithin steps place outer s = .ok ((), rest)) :
    ∃ piece, s = piece ++ rest ∧ ClosesAt place outer piece := by
  induction steps generalizing place outer s with
  | zero => cases read
  | succ steps ih =>
    cases place with
    | before =>
      obtain ⟨head, left, head?, onward⟩ := Reader.bind_eq_ok.1 read
      obtain ⟨front, blanks, ⟨rfl, piece, rfl, passes⟩ | ⟨bracket, rfl, rfl⟩⟩ :=
        skipHead_sound head?
      · obtain ⟨t, rfl, closes⟩ := ih onward
        exact ⟨_, by simp only [List.append_assoc], .value blanks passes closes⟩
      · obtain ⟨t, rfl, opened⟩ := ih onward
        obtain ⟨piece, t', eq, passes, closes⟩ := ClosesOpened.value opened
        refine ⟨_, ?_, .value blanks passes closes⟩
        rw [← List.cons_append, eq, List.append_assoc, List.append_assoc, List.append_assoc]
    | opened =>
      cases outer with
      | nil =>
        obtain ⟨-, rfl⟩ := Reader.pure_eq_ok.1 read
        exact ⟨[], rfl, .nil⟩
      | cons bracket outer =>
        obtain ⟨front, c, t, blanks, rfl, ⟨rfl, onward⟩ | ⟨_, entry⟩ | ⟨behind, _⟩⟩ :=
          skipWithin_inv (by decide) read
        · obtain ⟨t, rfl, closes⟩ := ih onward
          exact ⟨_, by simp, .close blanks closes⟩
        · obtain ⟨name, piece, t, eq, name?, passes, closes⟩ := skipEntry_sound ih entry
          refine ⟨_, ?_, .more (name?.append blanks) passes closes⟩
          rw [eq]
          simp only [List.append_assoc]
        · exact absurd rfl behind
    | behind =>
      cases outer with
      | nil =>
        obtain ⟨-, rfl⟩ := Reader.pure_eq_ok.1 read
        exact ⟨[], rfl, .nil⟩
      | cons bracket outer =>
        obtain ⟨back, c, t, blanks, rfl, ⟨rfl, onward⟩ | ⟨opened, _⟩ | ⟨_, rfl, entry⟩⟩ :=
          skipWithin_inv (by decide) read
        · obtain ⟨t, rfl, closes⟩ := ih onward
          exact ⟨_, by simp, .close blanks closes⟩
        · cases opened
        · obtain ⟨name, piece, t, rfl, name?, passes, closes⟩ := skipEntry_sound ih entry
          exact ⟨_, by simp, .more blanks name? passes closes⟩

/-- What is passed over is a value of the looser grammar. -/
theorem skip_sound : Sound Reader.skip (Behind fun piece _ => Passes piece) := by
  intro s _ rest read
  obtain ⟨_, rfl, closes⟩ : ∃ piece, s = piece ++ rest ∧ ClosesAt .before [] piece :=
    skipWithin_sound read
  obtain ⟨blanks, passes, closed⟩ := closes
  cases closed
  exact ⟨_, rfl, _, _, by simp, blanks, passes⟩

end DisclosureRelay.Json
