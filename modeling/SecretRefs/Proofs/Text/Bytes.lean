import SecretRefs.Text.Sign

/-!
# Bytes of a text

A text can be read back from its bytes, and so can a part of it from the bytes between the ends of
that part (`excerpt?_append`). The signs of its bytes are its characters (`signsOf_toUTF8`).
-/

namespace SecretRefs.Text

theorem fromUTF8?_toUTF8 (text : String) : String.fromUTF8? text.toUTF8 = some text := by
  unfold String.fromUTF8?
  rw [String.toUTF8_eq_toByteArray, dif_pos text.isValidUTF8]
  rfl

/-- The text of some bytes of a text, counted from an offset, if they are the bytes of one. -/
def excerpt? (text : String) (offset length : Nat) : Option String :=
  String.fromUTF8? (text.toUTF8.extract offset (offset + length))

theorem excerpt?_append (front middle behind : String) :
    excerpt? (front ++ middle ++ behind) front.utf8ByteSize middle.utf8ByteSize = some middle := by
  have bytes : (front ++ middle ++ behind).toUTF8.extract front.utf8ByteSize
      (front.utf8ByteSize + middle.utf8ByteSize) = middle.toUTF8 := by
    have behindFront := @ByteArray.extract_append_size_add front.toByteArray
      (middle.toByteArray ++ behind.toByteArray) 0 middle.toByteArray.size
    rw [ByteArray.extract_append_eq_left rfl, Nat.add_zero] at behindFront
    simp only [String.toUTF8_eq_toByteArray, String.toByteArray_append, ByteArray.append_assoc]
    exact behindFront
  rw [excerpt?, bytes, fromUTF8?_toUTF8]

/-! ## Signs -/

theorem firstChar?_utf8EncodeChar (c : Char) (rest : List UInt8) :
    firstChar? (String.utf8EncodeChar c ++ rest) = some c := by
  have fits : (String.utf8EncodeChar c).length ≤ 4 := by
    rw [String.length_utf8EncodeChar]
    exact c.utf8Size_le_four
  rw [firstChar?, List.take_append, List.take_of_length_le fits, List.toByteArray_append]
  exact ByteArray.utf8DecodeChar?_utf8EncodeChar_append

theorem signsOf_append (skipped rest : List UInt8) :
    signsOf skipped.length (skipped ++ rest) = signsOf 0 rest := by
  induction skipped with
  | nil => rfl
  | cons byte skipped inductionHypothesis => exact inductionHypothesis

theorem signsOf_utf8EncodeChar (c : Char) (rest : List UInt8) :
    signsOf 0 (String.utf8EncodeChar c ++ rest) = some c :: signsOf 0 rest := by
  have first := firstChar?_utf8EncodeChar c rest
  have size : (String.utf8EncodeChar c).length = c.utf8Size := String.length_utf8EncodeChar c
  cases encoded : String.utf8EncodeChar c with
  | nil =>
    rw [encoded] at size
    exact absurd size (Nat.ne_of_lt c.utf8Size_pos)
  | cons byte others =>
    rw [encoded] at first size
    rw [List.cons_append] at first ⊢
    rw [signsOf, first]
    simp only [← size, List.length_cons, Nat.add_sub_cancel]
    rw [signsOf_append]

/-- The bytes of a text are read as its characters. -/
theorem signsOf_toUTF8 (text : String) : signsOf 0 text.toUTF8.data.toList = signs text := by
  have bytes : text.toUTF8.data.toList = text.toList.flatMap String.utf8EncodeChar := by
    rw [String.toUTF8_eq_toByteArray, ← String.utf8Encode_toList, List.utf8Encode,
      List.data_toByteArray]
  rw [bytes, signs]
  induction text.toList with
  | nil => rfl
  | cons c rest inductionHypothesis =>
    rw [List.flatMap_cons, signsOf_utf8EncodeChar, inductionHypothesis, List.map_cons]

end SecretRefs.Text
