import DisclosureRelay.Http.Message
import DisclosureRelay.Proofs.Text.Utf8

/-!
# The text of a body

A body has the text that it spells: behind a mark, as the charset of its answer has it, or in UTF-8
(`text_of_spells`). The marks are told apart by their bytes (`split?_append`, `split?_eq_none`), and
what stands behind one is read as the characters whose bytes it is. For units of two bytes that is
`decodeUnits_encodeUnits`: a character has one unit or a pair by its code point, and no unit that
stands for itself lies among those of the pairs.
-/

namespace DisclosureRelay

namespace Text

namespace ByteOrder

variable {order : ByteOrder} {n : Nat} {rest : List UInt8}

/-- The two bytes of a unit make that unit. -/
lemma exists_bytes (order : ByteOrder) (small : n < 0x10000) :
    ∃ a b, order.bytes n = [a, b] ∧ order.unit a b = n := by
  have high : (UInt8.ofNat (n / 0x100)).toNat = n / 0x100 := Utf8.toNat_byte (by omega)
  have low : (UInt8.ofNat (n % 0x100)).toNat = n % 0x100 := Utf8.toNat_byte (by omega)
  cases order with
  | bigEndian | littleEndian =>
    refine ⟨_, _, rfl, ?_⟩
    rw [unit, high, low]
    omega

/-- A unit that is none of a pair is a character. -/
lemma decodeUnits_one (small : n < 0x10000) (character : n < 0xD800 ∨ 0xDFFF < n) :
    order.decodeUnits (order.bytes n ++ rest) = Char.ofNat n :: order.decodeUnits rest := by
  obtain ⟨a, b, bytes, unit⟩ := order.exists_bytes small
  rw [bytes, List.cons_append, List.singleton_append, decodeUnits.eq_def]
  simp only [unit, if_pos character]

/-- The two units of a pair are a character. -/
lemma decodeUnits_pair (low : 0x10000 ≤ n) (high : n < 0x110000) :
    order.decodeUnits (order.bytes (0xD800 + (n - 0x10000) / 0x400) ++
        (order.bytes (0xDC00 + (n - 0x10000) % 0x400) ++ rest))
      = Char.ofNat n :: order.decodeUnits rest := by
  obtain ⟨a, b, bytes, unit⟩ :=
    order.exists_bytes (show 0xD800 + (n - 0x10000) / 0x400 < 0x10000 by omega)
  obtain ⟨c, d, bytes', unit'⟩ :=
    order.exists_bytes (show 0xDC00 + (n - 0x10000) % 0x400 < 0x10000 by omega)
  have code : 0x10000 + 0x400 * (0xD800 + (n - 0x10000) / 0x400 - 0xD800)
      + (0xDC00 + (n - 0x10000) % 0x400 - 0xDC00) = n := by omega
  rw [bytes, bytes']
  simp only [List.cons_append, List.nil_append, decodeUnits, unit, unit']
  rw [if_neg (by omega), if_neg (by omega), if_pos (by omega), code]

lemma decodeUnits_unitsOf (c : Char) :
    order.decodeUnits ((unitsOf c).flatMap order.bytes ++ rest)
      = c :: order.decodeUnits rest := by
  have same : Char.ofNat c.toNat = c := Char.ofNat_toNat c
  have valid : c.toNat < 0xD800 ∨ 0xDFFF < c.toNat ∧ c.toNat < 0x110000 := c.valid
  unfold unitsOf
  split
  · next one =>
    rw [List.flatMap_singleton, decodeUnits_one one (by omega), same]
  · next pair =>
    rw [List.flatMap_cons, List.flatMap_singleton, List.append_assoc,
      decodeUnits_pair (by omega) (by omega), same]

/-- The units of a text are read as that text. -/
theorem decodeUnits_encodeUnits (order : ByteOrder) (s : List Char) :
    order.decodeUnits (order.encodeUnits s) = s := by
  induction s with
  | nil => rfl
  | cons c s ih =>
    rw [encodeUnits] at ih
    rw [encodeUnits, List.flatMap_cons, decodeUnits_unitsOf, ih]

end ByteOrder

namespace Mark

/-- What stands behind a mark is read as the characters whose bytes it is. -/
lemma decode_encode (mark : Mark) (s : List Char) : mark.decode (mark.encode s) = s := by
  cases mark with
  | utf8 => exact Utf8.decode_encode s
  | units order => exact order.decodeUnits_encodeUnits s

lemma split?_append (mark : Mark) (rest : List UInt8) :
    split? (mark.bytes ++ rest) = some (mark, rest) := by
  cases mark with
  | utf8 => rfl
  | units order => cases order <;> rfl

/-- A mark that is found stands at the front. -/
lemma eq_append_of_split? {mark : Mark} {bytes rest : List UInt8}
    (found : split? bytes = some (mark, rest)) : bytes = mark.bytes ++ rest := by
  unfold split? at found
  split at found <;> cases found <;> rfl

lemma split?_eq_none {bytes : List UInt8} :
    split? bytes = none ↔ ∀ mark : Mark, ¬mark.bytes <+: bytes := by
  constructor
  · rintro nothing mark ⟨rest, rfl⟩
    simp [split?_append] at nothing
  · intro unmarked
    cases found : split? bytes with
    | none => rfl
    | some marked =>
      exact absurd ⟨marked.2, (eq_append_of_split? found).symm⟩ (unmarked marked.1)

end Mark

end Text

namespace Http.Body

variable {body : Body}

lemma text_of_unmarked (unmarked : body.Unmarked) :
    body.text = String.ofList (body.charset.getD Text.Utf8.decode body.bytes.data.toList) := by
  rw [text, Text.bodyText, Text.Mark.split?_eq_none.2 unmarked]

/-- A body has the text that it spells. -/
theorem text_of_spells {text : String} (spells : body.Spells text) : body.text = text := by
  cases spells with
  | marked mark bytes =>
    rw [Body.text, Text.bodyText, bytes, Text.Mark.split?_append]
    exact (congrArg String.ofList (mark.decode_encode _)).trans String.ofList_toList
  | named unmarked charset reads =>
    rw [text_of_unmarked unmarked, charset, Option.getD_some, reads, String.ofList_toList]
  | plain unmarked charset bytes =>
    have encoded : body.bytes.data.toList = Text.Utf8.encode text.toList := by
      rw [bytes, String.toUTF8, ← String.utf8Encode_toList, List.utf8Encode]
      simp [Text.Utf8.encode]
    rw [text_of_unmarked unmarked, charset, Option.getD_none, encoded, Text.Utf8.decode_encode,
      String.ofList_toList]

end Http.Body

end DisclosureRelay
