import DisclosureRelay.Proofs.Text.Utf8
import DisclosureRelay.Text.FormUrlencoded
import Mathlib.Data.Bool.AllAny

/-!
# Form bodies give their pairs back

Each byte of a name or a value is read back from what stands for it (`decode_encodeByte`), and with
UTF-8 each name and value (`decodePart_encodePart`). What stands for them holds neither `&` nor `=`,
so that the body is cut where it was put together: `decode_encode` reads every list of pairs back,
and `mem_encodeChars` says which characters a body is made of.
-/

namespace DisclosureRelay.Text

lemma Hex.digit?_upper : ∀ value < 16, digit? (upper value) = some value := by decide

lemma Hex.isAlphanum_upper : ∀ value < 16, (upper value).isAlphanum = true := by decide

namespace FormUrlencoded

variable {b : UInt8} {c : Char} {rest : List Char}

/-- The marks that may stand in a name or a value, beside letters and digits. -/
def partMarks : List Char := ['*', '-', '.', '_', '+', '%']

/-- A space is written as a plus sign. -/
def unplus (c : Char) : Char :=
  if c = '+' then ' ' else c

lemma isPlainByte_iff :
    isPlainByte b = true ↔ b.toNat < 0x80 ∧
      ((Char.ofNat b.toNat).isAlphanum = true ∨ Char.ofNat b.toNat ∈ ['*', '-', '.', '_']) := by
  simp [isPlainByte, UInt8.lt_iff_toNat_lt, or_assoc]

/-- What stands for a byte holds letters, digits and marks. -/
lemma mem_encodeByte (mem : c ∈ encodeByte b) : c.isAlphanum = true ∨ c ∈ partMarks := by
  have byte := b.toNat_lt
  unfold encodeByte at mem
  split at mem
  · next plain =>
    obtain rfl := List.mem_singleton.1 mem
    refine (isPlainByte_iff.1 plain).2.imp_right fun mark => ?_
    exact List.mem_append_left ['+', '%'] mark
  · split at mem
    · obtain rfl := List.mem_singleton.1 mem
      exact .inr (by decide)
    · simp only [Percent.encodeByte, List.mem_cons, List.not_mem_nil, or_false] at mem
      rcases mem with rfl | rfl | rfl
      · exact .inr (by decide)
      · exact .inl (Hex.isAlphanum_upper _ (by omega))
      · exact .inl (Hex.isAlphanum_upper _ (by omega))

/-- A character that is no percent sign stands for its own bytes. -/
lemma percentDecode_cons (other : c ≠ '%') :
    Percent.decode (c :: rest) = String.utf8EncodeChar c ++ Percent.decode rest := by
  rw [Percent.decode]
  exact fun _ _ _ percent => absurd percent other

/-- Digits behind a percent sign stand for a byte. -/
lemma percentDecode_byte (b : UInt8) (rest : List Char) :
    Percent.decode (Percent.encodeByte b ++ rest) = b :: Percent.decode rest := by
  have byte := b.toNat_lt
  have value : 16 * (b.toNat / 16) + b.toNat % 16 = b.toNat := Nat.div_add_mod _ _
  simp only [Percent.encodeByte, List.cons_append, List.nil_append, Percent.decode]
  rw [Hex.digit?_upper _ (by omega), Hex.digit?_upper _ (by omega)]
  simp only [value, UInt8.ofNat_toNat]

lemma unplus_of_ne (other : c ≠ '+') : unplus c = c :=
  if_neg other

/-- An ASCII character has one byte. -/
lemma encodeChar_ascii (small : b.toNat < 0x80) :
    String.utf8EncodeChar (Char.ofNat b.toNat) = [b] := by
  have valid : b.toNat.isValidChar := .inl (by omega)
  have point : (Char.ofNat b.toNat).val.toNat = b.toNat := by
    rw [Char.ofNat, dif_pos valid]
    rfl
  rw [String.utf8EncodeChar]
  simp only [point]
  rw [if_pos (by omega), UInt8.ofNat_toNat]

/-- A byte is read back from what stands for it. -/
lemma decode_encodeByte (b : UInt8) (rest : List Char) :
    Percent.decode ((encodeByte b).map unplus ++ rest) = b :: Percent.decode rest := by
  have byte := b.toNat_lt
  unfold encodeByte
  split
  · next plain =>
    obtain ⟨small, mark⟩ := isPlainByte_iff.1 plain
    have noPlus : Char.ofNat b.toNat ≠ '+' := fun same => absurd (same ▸ mark) (by decide)
    have noPercent : Char.ofNat b.toNat ≠ '%' := fun same => absurd (same ▸ mark) (by decide)
    rw [List.map_singleton, unplus_of_ne noPlus, List.singleton_append,
      percentDecode_cons noPercent, encodeChar_ascii small, List.singleton_append]
  · split
    · next space =>
      subst space
      exact percentDecode_cons (by decide)
    · have digit : ∀ value < 16, Hex.upper value ≠ '+' := by decide
      have same : (Percent.encodeByte b).map unplus = Percent.encodeByte b := by
        simp only [Percent.encodeByte, List.map_cons, List.map_nil]
        rw [unplus_of_ne (digit _ (by omega)), unplus_of_ne (digit _ (by omega)),
          unplus_of_ne (by decide)]
      rw [same, percentDecode_byte]

/-- A name or a value is read back from what stands for it. -/
lemma decodePart_encodePart (text : String) : decodePart (encodePart text) = text := by
  have bytes (bytes : List UInt8) :
      Percent.decode ((bytes.flatMap encodeByte).map unplus) = bytes := by
    induction bytes with
    | nil => rfl
    | cons b bytes ih => rw [List.flatMap_cons, List.map_append, decode_encodeByte, ih]
  show String.ofList (Utf8.decode (Percent.decode ((encodePart text).map unplus))) = text
  rw [encodePart, bytes, Utf8.decode_encode, String.ofList_toList]

lemma mem_encodePart {text : String} (mem : c ∈ encodePart text) :
    c.isAlphanum = true ∨ c ∈ partMarks := by
  obtain ⟨b, -, mem⟩ := List.mem_flatMap.1 mem
  exact mem_encodeByte mem

/-- Neither of the two separators stands in a name or a value. -/
lemma not_mem_encodePart (separator : c ∈ ['&', '=']) (text : String) : c ∉ encodePart text := by
  have neither : ∀ c ∈ ['&', '='], ¬(c.isAlphanum = true ∨ c ∈ partMarks) :=
    List.all_iff_forall_prop.1 (by decide)
  exact fun mem => neither c separator (mem_encodePart mem)

/-- A pair is parted at its first equals sign, which is the one between name and value. -/
lemma decodePair_encodePair (pair : String × String) : decodePair (encodePair pair) = pair := by
  have front (c) (mem : c ∈ encodePart pair.1) : decide (c ≠ '=') = true :=
    decide_eq_true fun same => not_mem_encodePart (by decide) pair.1 (same ▸ mem)
  rw [decodePair, encodePair, List.takeWhile_append_of_pos front,
    List.dropWhile_append_of_pos front]
  simp [decodePart_encodePart]

/-- A body is its pairs with `&` between them. -/
lemma encodeChars_eq (pairs : List (String × String)) :
    encodeChars pairs = ['&'].intercalate (pairs.map encodePair) := by
  fun_induction encodeChars pairs with
  | case1 => rfl
  | case2 pair => simp
  | case3 pair next rest ih => simp [ih, List.intercalate_cons_cons]

/-- A body is made of letters, digits, the marks of its names and values, and the separators. -/
lemma mem_encodeChars {pairs : List (String × String)} (mem : c ∈ encodeChars pairs) :
    c.isAlphanum = true ∨ c ∈ partMarks ++ ['&', '='] := by
  have part {text : String} (mem : c ∈ encodePart text) :
      c.isAlphanum = true ∨ c ∈ partMarks ++ ['&', '='] :=
    (mem_encodePart mem).imp_right (List.mem_append_left _)
  have pair {pair : String × String} (mem : c ∈ encodePair pair) :
      c.isAlphanum = true ∨ c ∈ partMarks ++ ['&', '='] := by
    rcases List.mem_append.1 mem with name | value
    · exact part name
    · rcases List.mem_cons.1 value with rfl | value
      · exact .inr (by decide)
      · exact part value
  fun_induction encodeChars pairs with
  | case1 => cases mem
  | case2 => exact pair mem
  | case3 _ _ _ ih =>
    rcases List.mem_append.1 mem with first | others
    · exact pair first
    · rcases List.mem_cons.1 others with rfl | others
      · exact .inr (by decide)
      · exact ih others

/-- No pair holds the character that parts it from the next one. -/
lemma not_mem_encodePair (pair : String × String) : '&' ∉ encodePair pair := by
  intro mem
  rcases List.mem_append.1 mem with name | value
  · exact not_mem_encodePart (by decide) _ name
  · rcases List.mem_cons.1 value with same | value
    · exact absurd same (by decide)
    · exact not_mem_encodePart (by decide) _ value

/-- A pair has at least its equals sign, so that no piece of a body is passed over. -/
lemma encodePair_ne_nil (pair : String × String) : encodePair pair ≠ [] := by
  simp [encodePair]

/-- A list of pairs is read back from its body. -/
theorem decode_encode (pairs : List (String × String)) : decode (encode pairs) = pairs := by
  unfold decode encode
  rw [String.toList_ofList, encodeChars_eq]
  cases pairs with
  | nil => rfl
  | cons pair pairs =>
    have free : ∀ piece ∈ (pair :: pairs).map encodePair, '&' ∉ piece := by
      intro piece mem
      obtain ⟨pair, -, rfl⟩ := List.mem_map.1 mem
      exact not_mem_encodePair pair
    have given : ∀ piece ∈ (pair :: pairs).map encodePair, decide (piece ≠ []) = true := by
      intro piece mem
      obtain ⟨pair, -, rfl⟩ := List.mem_map.1 mem
      exact decide_eq_true (encodePair_ne_nil pair)
    rw [List.splitOn_intercalate '&' free (by simp), List.filter_eq_self.2 given, List.map_map]
    simp only [Function.comp_def, decodePair_encodePair, List.map_id']

end FormUrlencoded

end DisclosureRelay.Text
