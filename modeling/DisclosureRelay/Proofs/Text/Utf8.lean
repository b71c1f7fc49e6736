import DisclosureRelay.Text.Utf8
import Mathlib.Data.UInt

/-!
# UTF-8 gives the characters back

The bytes of a character are read as that character, whatever follows them, and so the bytes of a
text are read as that text. `start_byte` says what a byte begins and `decodeFrom_last` and
`decodeFrom_next` what the bytes behind it add, all by the values of the bytes. A character has one
to four bytes by the range of its code point; `decode_encodeChar` goes through the ranges.
-/

namespace DisclosureRelay.Text.Utf8

open String (utf8EncodeChar)

variable {n : Nat} {part : Partial} {rest : List UInt8}

/-- The value of a byte that was made from a small number. -/
lemma toNat_byte (small : n < 256) : (UInt8.ofNat n).toNat = n :=
  UInt8.toNat_ofNat_of_lt' small

/-- What a byte begins, by its value. -/
lemma start_byte (small : n < 256) :
    start (UInt8.ofNat n) =
      if n < 0x80 then .whole (Char.ofNat n)
      else if 0xC2 ≤ n ∧ n ≤ 0xDF then .begun ⟨1, 0x80, 0xBF, n % 0x20⟩
      else if n = 0xE0 then .begun ⟨2, 0xA0, 0xBF, n % 0x10⟩
      else if n = 0xED then .begun ⟨2, 0x80, 0x9F, n % 0x10⟩
      else if 0xE1 ≤ n ∧ n ≤ 0xEF then .begun ⟨2, 0x80, 0xBF, n % 0x10⟩
      else if n = 0xF0 then .begun ⟨3, 0x90, 0xBF, n % 0x08⟩
      else if 0xF1 ≤ n ∧ n ≤ 0xF3 then .begun ⟨3, 0x80, 0xBF, n % 0x08⟩
      else if n = 0xF4 then .begun ⟨3, 0x80, 0x8F, n % 0x08⟩
      else .none := by
  simp only [start, UInt8.lt_iff_toNat_lt, UInt8.le_iff_toNat_le, ← UInt8.toNat_inj,
    toNat_byte small]
  rfl

/-- The last byte of a character completes it. -/
lemma decodeFrom_last (small : n < 256) (last : part.missing ≤ 1)
    (within : part.low.toNat ≤ n ∧ n ≤ part.high.toNat) :
    decodeFrom (some part) (UInt8.ofNat n :: rest)
      = Char.ofNat (0x40 * part.code + n % 0x40) :: decodeFrom none rest := by
  rw [decodeFrom, if_pos, if_pos last, toNat_byte small]
  rwa [UInt8.le_iff_toNat_le, UInt8.le_iff_toNat_le, toNat_byte small]

/-- A byte inside a character adds six bits to its code point. -/
lemma decodeFrom_next (small : n < 256) (more : 1 < part.missing)
    (within : part.low.toNat ≤ n ∧ n ≤ part.high.toNat) :
    decodeFrom (some part) (UInt8.ofNat n :: rest)
      = decodeFrom (some ⟨part.missing - 1, 0x80, 0xBF, 0x40 * part.code + n % 0x40⟩) rest := by
  rw [decodeFrom, if_pos, if_neg (Nat.not_le.2 more), toNat_byte small]
  rwa [UInt8.le_iff_toNat_le, UInt8.le_iff_toNat_le, toNat_byte small]

lemma decodeFrom_whole (small : n < 0x80) :
    decodeFrom none (UInt8.ofNat n :: rest) = Char.ofNat n :: decodeFrom none rest := by
  rw [decodeFrom, start_byte (by omega), if_pos small]

/-- A byte that begins a longer character. -/
lemma decodeFrom_begun {b : UInt8} (begun : start b = .begun part) :
    decodeFrom none (b :: rest) = decodeFrom (some part) rest := by
  rw [decodeFrom, begun]

/-- A character of two bytes. -/
lemma decode_two (low : 0x80 ≤ n) (high : n < 0x800) :
    decodeFrom none (UInt8.ofNat (n / 64 % 32 + 192) :: UInt8.ofNat (n % 64 + 128) :: rest)
      = Char.ofNat n :: decodeFrom none rest := by
  have begun : start (UInt8.ofNat (n / 64 % 32 + 192))
      = .begun ⟨1, 0x80, 0xBF, (n / 64 % 32 + 192) % 0x20⟩ := by
    rw [start_byte (by omega), if_neg (by omega), if_pos (by omega)]
  have code : 0x40 * ((n / 64 % 32 + 192) % 0x20) + (n % 64 + 128) % 0x40 = n := by omega
  rw [decodeFrom_begun begun, decodeFrom_last (by omega) (by simp) (by simp; omega), code]

/-- What begins a character of three bytes. The second byte is bounded by the first one: a code
point that has a shorter form, or is a surrogate, would lie outside these bounds. -/
lemma start_three (low : 0x800 ≤ n) (high : n < 0x10000) (character : n < 0xD800 ∨ 0xDFFF < n) :
    ∃ part, start (UInt8.ofNat (n / 4096 % 16 + 224)) = .begun part ∧
      part.missing = 2 ∧ part.code = n / 4096 ∧
      part.low.toNat ≤ n / 64 % 64 + 128 ∧ n / 64 % 64 + 128 ≤ part.high.toNat := by
  rw [start_byte (by omega), if_neg (by omega), if_neg (by omega)]
  by_cases least : n < 0x1000
  · rw [if_pos (by omega)]
    exact ⟨_, rfl, rfl, by simp only [UInt8.reduceToNat]; omega⟩
  · rw [if_neg (by omega)]
    by_cases surrogates : n / 0x1000 = 0xD
    · rw [if_pos (by omega)]
      exact ⟨_, rfl, rfl, by simp only [UInt8.reduceToNat]; omega⟩
    · rw [if_neg (by omega), if_pos (by omega)]
      exact ⟨_, rfl, rfl, by simp only [UInt8.reduceToNat]; omega⟩

/-- A character of three bytes. -/
lemma decode_three (low : 0x800 ≤ n) (high : n < 0x10000)
    (character : n < 0xD800 ∨ 0xDFFF < n) :
    decodeFrom none (UInt8.ofNat (n / 4096 % 16 + 224) :: UInt8.ofNat (n / 64 % 64 + 128) ::
        UInt8.ofNat (n % 64 + 128) :: rest)
      = Char.ofNat n :: decodeFrom none rest := by
  obtain ⟨part, begun, missing, first, within⟩ := start_three low high character
  have code : 0x40 * (0x40 * part.code + (n / 64 % 64 + 128) % 0x40) + (n % 64 + 128) % 0x40
      = n := by omega
  rw [decodeFrom_begun begun, decodeFrom_next (by omega) (by omega) within,
    decodeFrom_last (by omega) (by simp [missing]) (by simp; omega), code]

/-- What begins a character of four bytes. -/
lemma start_four (low : 0x10000 ≤ n) (high : n < 0x110000) :
    ∃ part, start (UInt8.ofNat (n / 262144 % 8 + 240)) = .begun part ∧
      part.missing = 3 ∧ part.code = n / 262144 ∧
      part.low.toNat ≤ n / 4096 % 64 + 128 ∧ n / 4096 % 64 + 128 ≤ part.high.toNat := by
  rw [start_byte (by omega), if_neg (by omega), if_neg (by omega), if_neg (by omega),
    if_neg (by omega), if_neg (by omega)]
  by_cases least : n < 0x40000
  · rw [if_pos (by omega)]
    exact ⟨_, rfl, rfl, by simp only [UInt8.reduceToNat]; omega⟩
  · rw [if_neg (by omega)]
    by_cases greatest : n < 0x100000
    · rw [if_pos (by omega)]
      exact ⟨_, rfl, rfl, by simp only [UInt8.reduceToNat]; omega⟩
    · rw [if_neg (by omega), if_pos (by omega)]
      exact ⟨_, rfl, rfl, by simp only [UInt8.reduceToNat]; omega⟩

/-- A character of four bytes. -/
lemma decode_four (low : 0x10000 ≤ n) (high : n < 0x110000) :
    decodeFrom none (UInt8.ofNat (n / 262144 % 8 + 240) :: UInt8.ofNat (n / 4096 % 64 + 128) ::
        UInt8.ofNat (n / 64 % 64 + 128) :: UInt8.ofNat (n % 64 + 128) :: rest)
      = Char.ofNat n :: decodeFrom none rest := by
  obtain ⟨part, begun, missing, first, within⟩ := start_four low high
  have code : 0x40 * (0x40 * (0x40 * part.code + (n / 4096 % 64 + 128) % 0x40)
      + (n / 64 % 64 + 128) % 0x40) + (n % 64 + 128) % 0x40 = n := by omega
  rw [decodeFrom_begun begun, decodeFrom_next (by omega) (by omega) within,
    decodeFrom_next (by omega) (by simp [missing]) (by simp; omega),
    decodeFrom_last (by omega) (by simp [missing]) (by simp; omega), code]

/-- The bytes of a character are read as that character. -/
lemma decode_encodeChar (c : Char) :
    decodeFrom none (utf8EncodeChar c ++ rest) = c :: decodeFrom none rest := by
  have same : Char.ofNat c.val.toNat = c := Char.ofNat_toNat c
  have valid : c.val.toNat < 0xD800 ∨ 0xDFFF < c.val.toNat ∧ c.val.toNat < 0x110000 := c.valid
  generalize point : c.val.toNat = n at same valid
  simp only [utf8EncodeChar, point]
  split_ifs
  · rw [List.singleton_append, decodeFrom_whole (by omega), same]
  · rw [List.cons_append]
    exact (decode_two (by omega) (by omega)).trans (congrArg (· :: _) same)
  · rw [List.cons_append]
    exact (decode_three (by omega) (by omega) (by omega)).trans (congrArg (· :: _) same)
  · rw [List.cons_append]
    exact (decode_four (by omega) (by omega)).trans (congrArg (· :: _) same)

/-- The bytes of a text are read as that text. -/
theorem decode_encode (s : List Char) : decode (encode s) = s := by
  unfold decode encode
  induction s with
  | nil => rfl
  | cons c s ih => rw [List.flatMap_cons, decode_encodeChar, ih]

end DisclosureRelay.Text.Utf8
