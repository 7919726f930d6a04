import HomeVoice.Text.Characters

/-!
# The characters of a text are those of its bytes

Going through the bytes of a text comes to going through its characters, each of which is found, and
only the bytes of a text are read as this text.
-/

namespace HomeVoice.Text

variable {σ : Type} {step : σ → Option Char → σ} {state : σ}

/-- Bytes of a character that was seen already are passed over. -/
theorem foldBytes_append (seen bytes : List UInt8) :
    foldBytes step state seen.length (seen ++ bytes) = foldBytes step state 0 bytes := by
  induction seen with
  | nil => rfl
  | cons byte rest ih => exact ih

/-- A character is seen at its first byte. -/
theorem foldBytes_utf8EncodeChar_append (c : Char) (bytes : List UInt8) :
    foldBytes step state 0 (String.utf8EncodeChar c ++ bytes) =
      foldBytes step (step state c) 0 bytes := by
  have size := String.length_utf8EncodeChar c
  have few := c.utf8Size_le_four
  have decoded (more : List UInt8) :
      (String.utf8EncodeChar c ++ more).toByteArray.utf8DecodeChar? 0 = some c := by
    rw [List.toByteArray_append]
    exact ByteArray.utf8DecodeChar?_utf8EncodeChar_append
  cases bytesOf : String.utf8EncodeChar c with
  | nil =>
    have some := c.utf8Size_pos
    rw [bytesOf, List.length_nil] at size
    omega
  | cons byte seen =>
    rw [bytesOf, List.length_cons] at size
    have window : byte :: (seen ++ bytes).take 3 =
        String.utf8EncodeChar c ++ bytes.take (3 - seen.length) := by
      rw [bytesOf, List.take_append, List.take_of_length_le (by omega), List.cons_append]
    rw [List.cons_append, foldBytes, window, decoded]
    show foldBytes step _ (c.utf8Size - 1) (seen ++ bytes) = _
    rw [← size, Nat.add_sub_cancel]
    exact foldBytes_append seen bytes

theorem foldCharacters_toUTF8 (text : String) :
    foldCharacters step state text.toUTF8 =
      text.toList.foldl (fun state c => step state (some c)) state := by
  have bytes : text.toUTF8.data.toList = text.toList.flatMap String.utf8EncodeChar := by
    rw [String.toUTF8_eq_toByteArray, ← String.utf8Encode_toList]
    exact List.toList_data_toByteArray ..
  unfold foldCharacters
  rw [bytes]
  induction text.toList generalizing state with
  | nil => rfl
  | cons c rest ih =>
    rw [List.flatMap_cons, foldBytes_utf8EncodeChar_append, ih]
    rfl

theorem fromUTF8?_eq_some_iff {bytes : ByteArray} {text : String} :
    String.fromUTF8? bytes = some text ↔ bytes = text.toUTF8 := by
  unfold String.fromUTF8?
  constructor
  · intro read
    split at read
    · exact congrArg String.toUTF8 (Option.some.inj read)
    · cases read
  · rintro rfl
    exact dif_pos text.isValidUTF8

end HomeVoice.Text
