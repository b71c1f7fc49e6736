import Mathlib.Data.List.TakeWhile
import Mathlib.Tactic.IntervalCases
import DisclosureRelay.Proofs.Json.Literal

/-!
# Numerals are read by their grammar

What `Numeral.read` takes is a numeral (`spells_of_read`), and a numeral is read whole if the text
behind it could not go on with it (`read_of_spells`, `Stops`). A whole number of 64 bits is printed
as a numeral that has its value (`spells_integerChars`, `number_ofInt`).
-/

namespace DisclosureRelay.Json

variable {s t rest : List Char}

/-- The text does not begin with a digit. -/
def NoDigit (rest : List Char) : Prop :=
  ∀ c ∈ rest.head?, c.isDigit = false

/-- No numeral in front of the text could go on with it. -/
def Stops (rest : List Char) : Prop :=
  NoDigit rest ∧ ∀ c ∈ rest.head?, c ≠ '.' ∧ c ≠ 'e' ∧ c ≠ 'E'

/-- A text that begins with another character stops every numeral. -/
lemma stops_cons {c : Char} (digit : c.isDigit = false) (mark : c ≠ '.' ∧ c ≠ 'e' ∧ c ≠ 'E') :
    Stops (c :: rest) :=
  ⟨fun d mem => by rwa [← Option.some.inj mem], fun d mem => by rwa [← Option.some.inj mem]⟩

lemma stops_nil : Stops [] :=
  ⟨nofun, nofun⟩

namespace Numeral

variable {n : Numeral} {digits : List Char}

lemma takeWhile_digits (all : ∀ c ∈ digits, c.isDigit) (stop : NoDigit rest) :
    (digits ++ rest).takeWhile Char.isDigit = digits := by
  rw [List.takeWhile_append_of_pos all]
  cases rest with
  | nil => simp
  | cons c rest => rw [List.takeWhile_cons_of_neg (by simp [stop c rfl]), List.append_nil]

lemma dropWhile_digits (all : ∀ c ∈ digits, c.isDigit) (stop : NoDigit rest) :
    (digits ++ rest).dropWhile Char.isDigit = rest := by
  rw [List.dropWhile_append_of_pos all]
  cases rest with
  | nil => rfl
  | cons c rest => rw [List.dropWhile_cons_of_neg (by simp [stop c rfl])]

lemma noDigit_dropWhile (s : List Char) : NoDigit (s.dropWhile Char.isDigit) := by
  intro c mem
  have := List.head?_dropWhile_not Char.isDigit s
  rw [Option.mem_def.1 mem] at this
  simpa using this

theorem readDigits_eq_ok :
    readDigits s = .ok (digits, rest) ↔ s = digits ++ rest ∧ Digits digits ∧ NoDigit rest := by
  constructor
  · intro read
    simp only [readDigits] at read
    split at read
    · cases read
    · next some =>
      cases read
      refine ⟨List.takeWhile_append_dropWhile.symm, ⟨?_, ?_⟩, noDigit_dropWhile s⟩
      · simpa using some
      · exact fun c mem => List.mem_takeWhile_imp mem
  · rintro ⟨rfl, ⟨some, all⟩, stop⟩
    simp only [readDigits, takeWhile_digits all stop, dropWhile_digits all stop]
    exact if_neg (by simpa using some)

theorem readWhole_eq_ok :
    readWhole s = .ok (digits, rest) ↔ s = digits ++ rest ∧ Whole digits ∧ NoDigit rest := by
  constructor
  · intro read
    obtain ⟨⟨digits, left⟩, digits?, read⟩ := bind_eq_ok.1 read
    obtain ⟨eq, all, stop⟩ := readDigits_eq_ok.1 digits?
    simp only at read
    split at read
    · cases read
    · next zero =>
      cases read
      exact ⟨eq, ⟨all, by simpa using zero⟩, stop⟩
  · rintro ⟨eq, ⟨all, zero⟩, stop⟩
    refine bind_eq_ok.2 ⟨_, readDigits_eq_ok.2 ⟨eq, all, stop⟩, ?_⟩
    exact if_neg fun alone => alone.2 (zero alone.1)

/-! ## Fractions and exponents -/

lemma spellsFraction_of_read {fraction : Option (List Char)}
    (read : readFraction s = .ok (fraction, rest)) :
    ∃ t, s = t ++ rest ∧ SpellsFraction t fraction := by
  unfold readFraction at read
  split at read
  · obtain ⟨⟨digits, left⟩, digits?, result⟩ := bind_eq_ok.1 read
    cases result
    obtain ⟨rfl, all, _⟩ := readDigits_eq_ok.1 digits?
    exact ⟨'.' :: digits, rfl, .some all⟩
  · cases read
    exact ⟨[], rfl, .none⟩

lemma readFraction_of_spells {fraction : Option (List Char)} (spells : SpellsFraction s fraction)
    (stop : NoDigit rest) (point : ∀ c ∈ rest.head?, c ≠ '.') :
    readFraction (s ++ rest) = .ok (fraction, rest) := by
  cases spells with
  | none =>
    cases rest with
    | nil => rfl
    | cons c rest =>
      rw [List.nil_append, readFraction]
      exact fun t eq => point c rfl (List.cons.inj eq).1
  | some all => exact bind_eq_ok.2 ⟨_, readDigits_eq_ok.2 ⟨rfl, all, stop⟩, rfl⟩

lemma spellsSign_of_read {negative : Bool} (read : readSign s = (negative, rest)) :
    ∃ t, s = t ++ rest ∧ SpellsSign t negative := by
  unfold readSign at read
  split at read
  · cases read
    exact ⟨['+'], rfl, .plus⟩
  · cases read
    exact ⟨['-'], rfl, .minus⟩
  · cases read
    exact ⟨[], rfl, .none⟩

lemma readSign_of_spells {negative : Bool} (spells : SpellsSign s negative)
    (all : Digits digits) : readSign (s ++ (digits ++ rest)) = (negative, digits ++ rest) := by
  cases spells with
  | none =>
    obtain ⟨c, digits, rfl⟩ := List.exists_cons_of_ne_nil all.1
    have digit := all.2 c List.mem_cons_self
    rw [List.nil_append, List.cons_append, readSign]
    · rintro t eq
      rw [(List.cons.inj eq).1] at digit
      exact absurd digit (by decide)
    · rintro t eq
      rw [(List.cons.inj eq).1] at digit
      exact absurd digit (by decide)
  | plus => rfl
  | minus => rfl

lemma spellsExponent_of_read {exponent : Option (Bool × List Char)}
    (read : readExponent s = .ok (exponent, rest)) :
    ∃ t, s = t ++ rest ∧ SpellsExponent t exponent := by
  cases s with
  | nil =>
    cases read
    exact ⟨[], rfl, .none⟩
  | cons mark s =>
    rw [readExponent] at read
    split at read
    · next mark? =>
      rcases sign? : readSign s with ⟨negative, t⟩
      rw [sign?] at read
      obtain ⟨⟨digits, left⟩, digits?, result⟩ := bind_eq_ok.1 read
      cases result
      obtain ⟨sign, rfl, spells⟩ := spellsSign_of_read sign?
      obtain ⟨rfl, all, _⟩ := readDigits_eq_ok.1 digits?
      exact ⟨mark :: sign ++ digits, by simp, .some mark? spells all⟩
    · cases read
      exact ⟨[], rfl, .none⟩

lemma readExponent_of_spells {exponent : Option (Bool × List Char)}
    (spells : SpellsExponent s exponent) (stop : Stops rest) :
    readExponent (s ++ rest) = .ok (exponent, rest) := by
  cases spells with
  | none =>
    cases rest with
    | nil => rfl
    | cons c rest =>
      have marks := stop.2 c rfl
      rw [List.nil_append, readExponent, if_neg (not_or.2 ⟨marks.2.1, marks.2.2⟩)]
  | some mark sign all =>
    rw [List.append_assoc, List.cons_append, readExponent, if_pos mark]
    simp only [readSign_of_spells sign all]
    exact bind_eq_ok.2 ⟨_, readDigits_eq_ok.2 ⟨rfl, all, stop.1⟩, rfl⟩

/-- An exponent, or the text behind the numeral, goes on with no digit and no point. -/
lemma SpellsExponent.stops {exponent : Option (Bool × List Char)}
    (spells : SpellsExponent s exponent) (stop : Stops rest) :
    NoDigit (s ++ rest) ∧ ∀ c ∈ (s ++ rest).head?, c ≠ '.' := by
  cases spells with
  | none => exact ⟨stop.1, fun c mem => (stop.2 c mem).1⟩
  | some mark =>
    rcases mark with rfl | rfl <;> refine ⟨fun c mem => ?_, fun c mem => ?_⟩ <;>
      cases Option.some.inj mem <;> decide

lemma SpellsFraction.stops {fraction : Option (List Char)} (spells : SpellsFraction s fraction)
    (stop : NoDigit rest) : NoDigit (s ++ rest) := by
  cases spells with
  | none => exact stop
  | some =>
    intro c mem
    cases Option.some.inj mem
    decide

/-! ## Whole numerals -/

lemma readMinus_of_whole {negative : Bool} (whole : Whole digits) :
    readMinus ((if negative then ['-'] else []) ++ (digits ++ rest)) =
      (negative, digits ++ rest) := by
  cases negative with
  | true => rfl
  | false =>
    obtain ⟨c, digits, rfl⟩ := List.exists_cons_of_ne_nil whole.1.1
    have digit := whole.1.2 c List.mem_cons_self
    rw [if_neg Bool.false_ne_true, List.nil_append, List.cons_append, readMinus]
    rintro t eq
    rw [(List.cons.inj eq).1] at digit
    exact absurd digit (by decide)

lemma append_of_readMinus {negative : Bool} (read : readMinus s = (negative, rest)) :
    s = (if negative then ['-'] else []) ++ rest := by
  unfold readMinus at read
  split at read <;> cases read <;> rfl

/-- What is taken from the front of a text is a numeral. -/
theorem spells_of_read (read : Numeral.read s = .ok (n, rest)) :
    ∃ t, s = t ++ rest ∧ n.Spells t := by
  rcases minus? : readMinus s with ⟨negative, t⟩
  rw [Numeral.read, minus?] at read
  obtain ⟨⟨digits, left⟩, whole?, read'⟩ := bind_eq_ok.1 read
  obtain ⟨⟨fraction, left'⟩, fraction?, read''⟩ := bind_eq_ok.1 read'
  obtain ⟨⟨exponent, left''⟩, exponent?, result⟩ := bind_eq_ok.1 read''
  cases result
  obtain ⟨rfl, whole, _⟩ := readWhole_eq_ok.1 whole?
  obtain ⟨t, rfl, spellsFraction⟩ := spellsFraction_of_read fraction?
  obtain ⟨t', rfl, spellsExponent⟩ := spellsExponent_of_read exponent?
  refine ⟨_, ?_, .parts whole spellsFraction spellsExponent⟩
  rw [append_of_readMinus minus?]
  simp only [List.append_assoc]

/-- A numeral is read whole if the text behind it could not go on with it. -/
theorem read_of_spells (spells : n.Spells s) (stop : Stops rest) :
    Numeral.read (s ++ rest) = .ok (n, rest) := by
  obtain ⟨whole, spellsFraction, spellsExponent⟩ := spells
  obtain ⟨noDigit, noPoint⟩ := spellsExponent.stops stop
  simp only [Numeral.read, List.append_assoc, readMinus_of_whole whole]
  refine bind_eq_ok.2 ⟨_, readWhole_eq_ok.2 ⟨rfl, whole, spellsFraction.stops noDigit⟩, ?_⟩
  refine bind_eq_ok.2 ⟨_, readFraction_of_spells spellsFraction noDigit noPoint, ?_⟩
  exact bind_eq_ok.2 ⟨_, readExponent_of_spells spellsExponent stop, rfl⟩

/-- A numeral begins with a minus sign or a digit. -/
lemma Spells.begins (spells : n.Spells s) : ∃ c t, s = c :: t ∧ (c = '-' ∨ c.isDigit) := by
  obtain @⟨negative, digits, s, t, _, _, whole, _, _⟩ := spells
  cases negative with
  | true => exact ⟨'-', _, rfl, .inl rfl⟩
  | false =>
    obtain ⟨c, digits, rfl⟩ := List.exists_cons_of_ne_nil whole.1.1
    exact ⟨c, _, rfl, .inr (whole.1.2 c List.mem_cons_self)⟩

/-! ## Printed whole numbers -/

/-- Only zero is printed with a zero in front. -/
lemma head?_toDigits {value : Nat} (positive : 0 < value) :
    (Nat.toDigits 10 value).head? ≠ some '0' := by
  induction value using Nat.strongRecOn with
  | ind value ih =>
    by_cases small : value < 10
    · rw [Nat.toDigits_of_lt_base small]
      interval_cases value <;> decide
    · have tenth := ih (value / 10) (by omega) (by omega)
      obtain ⟨c, digits, eq⟩ :=
        List.exists_cons_of_ne_nil (Nat.toDigits_ne_nil (n := value / 10) (b := 10))
      rw [Nat.toDigits_of_base_le (by decide) (by omega), eq]
      rwa [eq] at tenth

lemma whole_toDigits (value : Nat) : Whole (Nat.toDigits 10 value) := by
  refine ⟨⟨Nat.toDigits_ne_nil, fun c => Nat.isDigit_of_mem_toDigits (by decide) (by decide)⟩, ?_⟩
  intro zero
  obtain rfl | positive := Nat.eq_zero_or_pos value
  · rfl
  · exact absurd zero (head?_toDigits positive)

/-- The numeral of a whole number. -/
def ofInt (value : Int) : Numeral :=
  ⟨value < 0, Nat.toDigits 10 value.natAbs, none, none⟩

theorem spells_integerChars (value : Int) :
    (ofInt value).Spells (Number.integerChars value) := by
  have spells : (ofInt value).Spells ((if decide (value < 0) then ['-'] else []) ++
      Nat.toDigits 10 value.natAbs ++ [] ++ []) :=
    .parts (whole_toDigits value.natAbs) .none .none
  rw [List.append_nil, List.append_nil] at spells
  rw [Number.integerChars]
  split
  · next negative => simpa [ofInt, negative] using spells
  · next positive => simpa [ofInt, positive] using spells

theorem number_ofInt {value : Int} (exact : Number.Exact value) :
    (ofInt value).number = .ok (.integer value) := by
  have powers : Int.pow 2 63 = (Nat.pow 2 63 : Nat) ∧ Int.pow 2 64 = (Nat.pow 2 64 : Nat) :=
    ⟨rfl, rfl⟩
  obtain ⟨low, high⟩ := exact
  simp only [number, ofInt, Nat.ofDigitChars_toDigits (b := 10) (by decide) (by decide)]
  rw [if_neg (by simp)]
  split
  · next negative =>
    rw [if_pos (by have := of_decide_eq_true negative; omega)]
    have := of_decide_eq_true negative
    congr 2
    omega
  · next positive =>
    have := of_decide_eq_false (Bool.eq_false_iff.2 positive)
    rw [if_pos (by omega)]
    congr 2
    omega

end Numeral

end DisclosureRelay.Json
