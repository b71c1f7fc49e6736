import Mathlib.Tactic.Common
import DisclosureRelay.Json.Grammar

/-!
# Literals are read by their grammar

`literal` takes a text from the front exactly if it is spelled there up to a closing quote
(`literal_eq_ok`); it is put together from the same statement about a code unit, an escape and a row
of characters. Each character that is printed spells itself, so that `literalChars` spells its text
(`spellsText_literalChars`).
-/

namespace DisclosureRelay.Json

variable {s t rest : List Char} {c : Char}

/-- A computation in two steps succeeds if each of them does. -/
theorem bind_eq_ok {ε α β : Type} {x : Except ε α} {f : α → Except ε β} {b : β} :
    x.bind f = .ok b ↔ ∃ a, x = .ok a ∧ f a = .ok b := by
  cases x <;> simp [Except.bind]

/-! ## Escapes -/

lemma length_le_byteCount (s : List Char) (count : Nat) :
    count + s.length ≤ s.foldl (fun count d => count + Char.utf8Size d) count := by
  induction s generalizing count with
  | nil => exact Nat.le_refl _
  | cons c s ih =>
    have positive := c.utf8Size_pos
    have step := ih (count + c.utf8Size)
    rw [List.foldl_cons, List.length_cons]
    omega

theorem codeUnit_eq_ok {unit : Nat} :
    codeUnit s = .ok (unit, rest) ↔
      ∃ a b c d, s = a :: b :: c :: d :: rest ∧ Text.Hex.value? [a, b, c, d] = some unit := by
  constructor
  · intro read
    unfold codeUnit at read
    split at read
    · cases read
    · split at read
      · split at read
        · next value =>
          cases read
          exact ⟨_, _, _, _, rfl, value⟩
        · cases read
      · cases read
  · rintro ⟨a, b, c, d, rfl, value⟩
    have enough : ¬byteCount [a, b, c, d] < 4 :=
      Nat.not_lt.2 (Nat.le_trans (by simp) (length_le_byteCount [a, b, c, d] 0))
    simp only [codeUnit, List.take_succ_cons, List.take_zero, if_neg enough, value]

theorem secondHalf_eq_ok {unit : Nat} :
    secondHalf s = .ok (unit, rest) ↔
      ∃ a b c d, s = '\\' :: 'u' :: a :: b :: c :: d :: rest ∧
        Text.Hex.value? [a, b, c, d] = some unit ∧ 0xDC00 ≤ unit ∧ unit < 0xE000 := by
  constructor
  · intro read
    unfold secondHalf at read
    split at read
    · cases read
    · cases read
    · next s =>
      obtain ⟨⟨low, left⟩, unit?, half⟩ := bind_eq_ok.1 read
      obtain ⟨a, b, c, d, rfl, value⟩ := codeUnit_eq_ok.1 unit?
      simp only at half
      split at half
      · next half? =>
        cases half
        exact ⟨a, b, c, d, rfl, value, half?.1, by omega⟩
      · cases half
    · cases read
  · rintro ⟨a, b, c, d, rfl, value, low⟩
    have unit? : codeUnit (a :: b :: c :: d :: rest) = .ok (unit, rest) :=
      codeUnit_eq_ok.2 ⟨a, b, c, d, rfl, value⟩
    refine bind_eq_ok.2 ⟨_, unit?, ?_⟩
    exact if_pos ⟨low.1, by omega⟩

/-- An escape by code unit, from behind the `u`. -/
theorem unicodeEscape_eq_ok :
    unicodeEscape s = .ok (c, rest) ↔ ∃ t, s = t ++ rest ∧ SpellsChar ('\\' :: 'u' :: t) c := by
  constructor
  · intro read
    obtain ⟨⟨unit, left⟩, unit?, escape⟩ := bind_eq_ok.1 read
    obtain ⟨a, b, c, d, rfl, value⟩ := codeUnit_eq_ok.1 unit?
    simp only at escape
    split at escape
    · cases escape
    · split at escape
      · next high =>
        obtain ⟨⟨low, left⟩, half, pair⟩ := bind_eq_ok.1 escape
        obtain ⟨a', b', c', d', rfl, value', low?⟩ := secondHalf_eq_ok.1 half
        obtain ⟨rfl, rfl⟩ := Prod.mk.inj (Except.ok.inj pair)
        exact ⟨[a, b, c, d, '\\', 'u', a', b', c', d'], rfl,
          .pair value ⟨high.1, by omega⟩ value' low?⟩
      · cases escape
        exact ⟨[a, b, c, d], rfl, .unit value (by omega)⟩
  · rintro ⟨t, rfl, spells⟩
    cases spells with
    | short short => simp [shortEscapes] at short
    | @unit unit a b c d value single =>
      refine bind_eq_ok.2 ⟨_, codeUnit_eq_ok.2 ⟨_, _, _, _, rfl, value⟩, ?_⟩
      simp only
      rw [if_neg (by omega), if_neg (by omega)]
      rfl
    | @pair high low a b c d a' b' c' d' value high? value' low? =>
      refine bind_eq_ok.2 ⟨_, codeUnit_eq_ok.2 ⟨_, _, _, _, rfl, value⟩, ?_⟩
      simp only
      rw [if_neg (by omega), if_pos (by omega)]
      exact bind_eq_ok.2 ⟨_, secondHalf_eq_ok.2 ⟨_, _, _, _, rfl, value', low?⟩, rfl⟩

/-- An escape is a short one, or it is left to the reader of code units. -/
lemma escapeBy_inv {unicode : List Char → Except Fault (Char × List Char)}
    (escape : escapeBy unicode s = .ok (c, rest)) :
    (∃ letter, s = letter :: rest ∧ (letter, c) ∈ shortEscapes) ∨
      ∃ t, s = 'u' :: t ∧ unicode t = .ok (c, rest) := by
  unfold escapeBy at escape
  split at escape
  · cases escape
  · split at escape
    case h_9 left _ => exact .inr ⟨left, rfl, escape⟩
    case h_10 => cases escape
    all_goals
      cases escape
      exact .inl ⟨_, rfl, by decide⟩

/-- An escape, from behind the backslash. -/
theorem escapeBy_eq_ok :
    escapeBy unicodeEscape s = .ok (c, rest) ↔ ∃ t, s = t ++ rest ∧ SpellsChar ('\\' :: t) c := by
  constructor
  · intro escape
    rcases escapeBy_inv escape with ⟨letter, rfl, short⟩ | ⟨t, rfl, unicode⟩
    · exact ⟨[letter], rfl, .short short⟩
    · obtain ⟨t, rfl, spells⟩ := unicodeEscape_eq_ok.1 unicode
      exact ⟨'u' :: t, rfl, spells⟩
  · rintro ⟨t, rfl, spells⟩
    cases spells with
    | plain _ noBackslash _ => exact absurd rfl noBackslash
    | short short =>
      simp only [shortEscapes, List.mem_cons, Prod.mk.injEq, List.not_mem_nil, or_false] at short
      rcases short with ⟨rfl, rfl⟩ | ⟨rfl, rfl⟩ | ⟨rfl, rfl⟩ | ⟨rfl, rfl⟩ | ⟨rfl, rfl⟩ |
        ⟨rfl, rfl⟩ | ⟨rfl, rfl⟩ | ⟨rfl, rfl⟩ <;> rfl
    | unit value single => exact unicodeEscape_eq_ok.2 ⟨_, rfl, .unit value single⟩
    | pair value high value' low =>
      exact unicodeEscape_eq_ok.2 ⟨_, rfl, .pair value high value' low⟩

/-! ## Literals -/

/-- What is read up to the closing quote is a row of whatever the escapes are, however many steps
are left. -/
lemma row_of_literalWithin {unicode : List Char → Except Fault (Char × List Char)}
    (Row : List Char → List Char → Prop) (nil : Row [] [])
    (plain : ∀ {c body cs}, c ≠ '"' → c ≠ '\\' → 32 ≤ c.toNat → Row body cs →
      Row (c :: body) (c :: cs))
    (escaped : ∀ {s c rest}, escapeBy unicode s = .ok (c, rest) →
      ∃ t, s = t ++ rest ∧ ∀ {body cs}, Row body cs → Row ('\\' :: (t ++ body)) (c :: cs))
    {cs : List Char} {steps : Nat} (read : literalWithin unicode steps s = .ok (cs, rest)) :
    ∃ body, s = body ++ '"' :: rest ∧ Row body cs := by
  induction steps generalizing s cs with
  | zero => cases read
  | succ steps ih =>
    cases s with
    | nil => cases read
    | cons c s =>
      rw [literalWithin] at read
      split at read
      · next quote =>
        cases read
        exact ⟨[], by rw [quote]; rfl, nil⟩
      · next noQuote =>
        split at read
        · next backslash =>
          obtain ⟨⟨held, left⟩, escape, onward⟩ := bind_eq_ok.1 read
          obtain ⟨⟨more, left'⟩, within, result⟩ := bind_eq_ok.1 onward
          cases result
          obtain ⟨t, rfl, row⟩ := escaped escape
          obtain ⟨body, rfl, later⟩ := ih within
          exact ⟨'\\' :: (t ++ body), by simp [backslash], row later⟩
        · next noBackslash =>
          split at read
          · cases read
          · next noControl =>
            obtain ⟨⟨more, left⟩, within, result⟩ := bind_eq_ok.1 read
            cases result
            obtain ⟨body, rfl, later⟩ := ih within
            exact ⟨c :: body, rfl, plain noQuote noBackslash (Nat.not_lt.1 noControl) later⟩

lemma spellsChars_of_literalWithin {cs : List Char} {steps : Nat}
    (read : literalWithin unicodeEscape steps s = .ok (cs, rest)) :
    ∃ body, s = body ++ '"' :: rest ∧ SpellsChars body cs := by
  refine row_of_literalWithin SpellsChars .nil (fun noQuote noBackslash noControl row => ?_)
    (fun escape => ?_) read
  · exact .cons (.plain noQuote noBackslash noControl) row
  · obtain ⟨t, rfl, spells⟩ := escapeBy_eq_ok.1 escape
    exact ⟨t, rfl, fun row => .cons spells row⟩

/-- A text of a character is the character itself or begins with a backslash. -/
lemma SpellsChar.begins (spells : SpellsChar s c) :
    s = [c] ∧ c ≠ '"' ∧ c ≠ '\\' ∧ 32 ≤ c.toNat ∨ ∃ t, s = '\\' :: t := by
  cases spells with
  | plain noQuote noBackslash noControl => exact .inl ⟨rfl, noQuote, noBackslash, noControl⟩
  | short => exact .inr ⟨_, rfl⟩
  | unit => exact .inr ⟨_, rfl⟩
  | pair => exact .inr ⟨_, rfl⟩

lemma literalWithin_of_spellsChars {body cs : List Char} (spells : SpellsChars body cs)
    {steps : Nat} (enough : body.length < steps) :
    literalWithin unicodeEscape steps (body ++ '"' :: rest) = .ok (cs, rest) := by
  induction spells generalizing steps with
  | nil =>
    obtain ⟨steps, rfl⟩ := Nat.exists_eq_succ_of_ne_zero (Nat.ne_of_gt enough)
    rfl
  | @cons s t c cs spells _ ih =>
    obtain ⟨steps, rfl⟩ := Nat.exists_eq_succ_of_ne_zero (Nat.ne_zero_of_lt enough)
    rw [List.length_append] at enough
    rcases spells.begins with ⟨rfl, noQuote, noBackslash, noControl⟩ | ⟨s, rfl⟩
    · rw [List.append_assoc, List.singleton_append, literalWithin, if_neg noQuote,
        if_neg noBackslash, if_neg (Nat.not_lt.2 noControl)]
      rw [List.length_singleton] at enough
      exact bind_eq_ok.2 ⟨_, ih (by omega), rfl⟩
    · have escape : escapeBy unicodeEscape (s ++ (t ++ '"' :: rest)) = .ok (c, t ++ '"' :: rest) :=
        escapeBy_eq_ok.2 ⟨s, rfl, spells⟩
      rw [List.append_assoc, List.cons_append, literalWithin, if_neg (by decide), if_pos rfl]
      rw [List.length_cons] at enough
      exact bind_eq_ok.2 ⟨_, escape, bind_eq_ok.2 ⟨_, ih (by omega), rfl⟩⟩

/-- A text is read from behind its opening quote exactly if it is spelled there. -/
theorem literal_eq_ok {text : String} :
    literal s = .ok (text, rest) ↔
      ∃ body, s = body ++ '"' :: rest ∧ SpellsChars body text.toList := by
  constructor
  · intro read
    obtain ⟨⟨cs, left⟩, within, read⟩ := bind_eq_ok.1 read
    cases read
    rw [String.toList_ofList]
    exact spellsChars_of_literalWithin within
  · rintro ⟨body, rfl, spells⟩
    refine bind_eq_ok.2 ⟨_, literalWithin_of_spellsChars spells ?_, ?_⟩
    · simp
    · simp only [String.ofList_toList]

/-! ## Printed literals -/

lemma hexValue_of_control : ∀ unit < 32,
    Text.Hex.value? ['0', '0', Text.Hex.lower (unit / 16), Text.Hex.lower (unit % 16)]
      = some unit := by
  decide

theorem spellsChar_escapeChar (c : Char) : SpellsChar (escapeChar c) c := by
  unfold escapeChar
  split
  case h_8 noQuote noBackslash _ _ _ _ _ =>
    split
    · next control =>
      have spells := SpellsChar.unit (hexValue_of_control _ control) (.inl (by omega))
      rwa [Char.ofNat_toNat] at spells
    · next noControl => exact .plain noQuote noBackslash (Nat.not_lt.1 noControl)
  all_goals exact .short (by decide)

theorem spellsChars_flatMap (cs : List Char) : SpellsChars (cs.flatMap escapeChar) cs := by
  induction cs with
  | nil => exact .nil
  | cons c cs ih => exact .cons (spellsChar_escapeChar c) ih

/-- What is printed for a text spells it. -/
theorem spellsText_literalChars (text : String) : SpellsText (literalChars text) text :=
  .quoted (spellsChars_flatMap text.toList)

end DisclosureRelay.Json
