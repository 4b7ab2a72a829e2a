import DocBinder.Text.Utf8
import Mathlib.Algebra.Group.Nat.Defs

/-!
# Texts as bytes

A text that is written in UTF-8 reads back as itself. Every character has one to four bytes, of which
the first one tells their number; the values that its length leaves out are those that the range of
the second byte leaves out.
-/

namespace DocBinder.Text

variable {code size missing number : Nat} {rest : List UInt8}

theorem toNat_ofNat_byte (small : number < 256) : (UInt8.ofNat number).toNat = number := by
  rw [UInt8.toNat_ofNat']
  omega

theorem utf8Rest_cons {low high : UInt8} (small : number < 256) (above : low.toNat ≤ number)
    (below : number ≤ high.toNat) :
    utf8Rest low high code size (missing + 1) (UInt8.ofNat number :: rest) =
      utf8Rest 0x80 0xBF (code * 64 + number % 64) (size + 1) missing rest := by
  have inside : low ≤ UInt8.ofNat number ∧ UInt8.ofNat number ≤ high := by
    rw [UInt8.le_iff_toNat_le, UInt8.le_iff_toNat_le, toNat_ofNat_byte small]
    exact ⟨above, below⟩
  simp only [utf8Rest, inside, decide_true, Bool.and_self, if_true, toNat_ofNat_byte small]

/-- A byte that goes on with a character may have any value of six bits. -/
theorem utf8Rest_tail (value : Nat) :
    utf8Rest 0x80 0xBF code size (missing + 1) (UInt8.ofNat (value % 64 + 128) :: rest) =
      utf8Rest 0x80 0xBF (code * 64 + value % 64) (size + 1) missing rest := by
  rw [utf8Rest_cons (by omega) (by change 128 ≤ _; omega) (by change _ ≤ 191; omega)]
  congr 2
  omega

theorem utf8Head_cons {low high : UInt8} (small : number < 256) (long : 128 ≤ number)
    (lead : utf8Lead (UInt8.ofNat number) = some (size, low, high)) :
    utf8Head (UInt8.ofNat number) rest =
      utf8Rest low high (number % 2 ^ (7 - size)) 1 (size - 1) rest := by
  have isLong : ¬ UInt8.ofNat number < 0x80 := by
    rw [UInt8.lt_iff_toNat_lt, toNat_ofNat_byte small]
    change ¬ number < 128
    omega
  rw [utf8Head, if_neg isLong, lead]
  simp only [toNat_ofNat_byte small]
  rfl

/-! ## Characters -/

theorem utf8Lead_two : ∀ number < 224, 194 ≤ number →
    utf8Lead (UInt8.ofNat number) = some (2, 0x80, 0xBF) := by
  decide +kernel

theorem utf8Lead_three : ∀ number < 240, 225 ≤ number ∧ number ≠ 237 →
    utf8Lead (UInt8.ofNat number) = some (3, 0x80, 0xBF) := by
  decide +kernel

theorem utf8Lead_four : ∀ number < 244, 241 ≤ number →
    utf8Lead (UInt8.ofNat number) = some (4, 0x80, 0xBF) := by
  decide +kernel

theorem utf8Head_two {value : Nat} (long : 127 < value) (short : value ≤ 2047) :
    utf8Head (UInt8.ofNat (value / 64 % 32 + 192)) (UInt8.ofNat (value % 64 + 128) :: rest) =
      .character (Char.ofNat value) 2 := by
  rw [utf8Head_cons (by omega) (by omega) (utf8Lead_two _ (by omega) (by omega)), utf8Rest_tail,
    utf8Rest]
  congr 2
  omega

theorem utf8Head_three {value : Nat} (long : 2047 < value) (short : value ≤ 65535)
    (valid : value < 0xd800 ∨ 0xdfff < value) :
    utf8Head (UInt8.ofNat (value / 4096 % 16 + 224)) (UInt8.ofNat (value / 64 % 64 + 128) ::
      UInt8.ofNat (value % 64 + 128) :: rest) = .character (Char.ofNat value) 3 := by
  by_cases lowest : value / 4096 = 0
  · rw [lowest, utf8Head_cons (by omega) (by omega)
      (show utf8Lead (UInt8.ofNat 224) = some (3, 0xA0, 0xBF) from rfl),
      utf8Rest_cons (by omega) (by change 160 ≤ _; omega) (by change _ ≤ 191; omega), utf8Rest_tail,
      utf8Rest]
    congr 2
    omega
  · by_cases highest : value / 4096 = 13
    · rw [highest, utf8Head_cons (by omega) (by omega)
        (show utf8Lead (UInt8.ofNat 237) = some (3, 0x80, 0x9F) from rfl),
        utf8Rest_cons (by omega) (by change 128 ≤ _; omega) (by change _ ≤ 159; omega), utf8Rest_tail,
        utf8Rest]
      congr 2
      omega
    · rw [utf8Head_cons (by omega) (by omega)
        (utf8Lead_three _ (by omega) ⟨by omega, by omega⟩), utf8Rest_tail, utf8Rest_tail, utf8Rest]
      congr 2
      omega

theorem utf8Head_four {value : Nat} (long : 65535 < value) (valid : value < 0x110000) :
    utf8Head (UInt8.ofNat (value / 262144 % 8 + 240)) (UInt8.ofNat (value / 4096 % 64 + 128) ::
      UInt8.ofNat (value / 64 % 64 + 128) :: UInt8.ofNat (value % 64 + 128) :: rest) =
      .character (Char.ofNat value) 4 := by
  by_cases lowest : value / 262144 = 0
  · rw [lowest, utf8Head_cons (by omega) (by omega)
      (show utf8Lead (UInt8.ofNat 240) = some (4, 0x90, 0xBF) from rfl),
      utf8Rest_cons (by omega) (by change 144 ≤ _; omega) (by change _ ≤ 191; omega), utf8Rest_tail,
      utf8Rest_tail, utf8Rest]
    congr 2
    omega
  · by_cases highest : value / 262144 = 4
    · rw [highest, utf8Head_cons (by omega) (by omega)
        (show utf8Lead (UInt8.ofNat 244) = some (4, 0x80, 0x8F) from rfl),
        utf8Rest_cons (by omega) (by change 128 ≤ _; omega) (by change _ ≤ 143; omega), utf8Rest_tail,
        utf8Rest_tail, utf8Rest]
      congr 2
      omega
    · rw [utf8Head_cons (by omega) (by omega) (utf8Lead_four _ (by omega) (by omega)), utf8Rest_tail,
        utf8Rest_tail, utf8Rest_tail, utf8Rest]
      congr 2
      omega

/-- The bytes of a character read as this character. -/
theorem exists_utf8Head (character : Char) : ∃ first others,
    String.utf8EncodeChar character = first :: others ∧ ∀ rest,
      utf8Head first (others ++ rest) = .character character (others.length + 1) := by
  have isOwn : Char.ofNat character.val.toNat = character := Char.ofNat_toNat character
  have valid : character.val.toNat < 0xd800 ∨
      0xdfff < character.val.toNat ∧ character.val.toNat < 0x110000 := character.valid
  simp only [String.utf8EncodeChar]
  split
  · refine ⟨_, _, rfl, ?_⟩
    intro rest
    have isByte := toNat_ofNat_byte (show character.val.toNat < 256 by omega)
    have short : UInt8.ofNat character.val.toNat < 0x80 := by
      rw [UInt8.lt_iff_toNat_lt, isByte]
      change character.val.toNat < 128
      omega
    rw [utf8Head, if_pos short, isByte, isOwn]
    rfl
  · split
    · refine ⟨_, _, rfl, fun rest => ?_⟩
      exact (utf8Head_two (by omega) (by omega)).trans (by rw [isOwn]; rfl)
    · split
      · refine ⟨_, _, rfl, fun rest => ?_⟩
        exact (utf8Head_three (by omega) (by omega) (by omega)).trans (by rw [isOwn]; rfl)
      · refine ⟨_, _, rfl, fun rest => ?_⟩
        exact (utf8Head_four (by omega) (by omega)).trans (by rw [isOwn]; rfl)

/-! ## Texts -/

theorem decodeFrom_skip (position : Nat) (front rest : List UInt8) (read : Text) :
    decodeFrom position front.length (front ++ rest) read =
      decodeFrom (position + front.length) 0 rest read := by
  induction front generalizing position with
  | nil => rfl
  | cons byte front step =>
      rw [List.cons_append, List.length_cons, decodeFrom, step]
      congr 1
      omega

theorem decodeFrom_encode (text : Text) (position : Nat) (read : Text) :
    decodeFrom position 0 (text.flatMap String.utf8EncodeChar) read = .ok (read.reverse ++ text) := by
  induction text generalizing position read with
  | nil => simp [decodeFrom]
  | cons character text step =>
      rcases exists_utf8Head character with ⟨first, others, isEncoded, reads⟩
      rw [List.flatMap_cons, isEncoded, List.cons_append, decodeFrom, reads]
      simp only [Nat.add_sub_cancel]
      rw [decodeFrom_skip, step]
      simp

/-- What is encoded reads back. -/
theorem decodeUtf8_toUTF8 (text : Text) :
    decodeUtf8 (String.ofList text).toUTF8.data.toList = .ok text := by
  have bytes : (String.ofList text).toUTF8.data.toList = text.flatMap String.utf8EncodeChar := by
    change (String.ofList text).toByteArray.data.toList = _
    rw [String.toByteArray_ofList, List.utf8Encode, List.data_toByteArray]
  rw [decodeUtf8, bytes, decodeFrom_encode]
  rfl

end DocBinder.Text
