/-! # Bytes as text

Text is stored in the eight-bit encoding of the character standard, and only a sequence of bytes
that encodes characters without a fault is text.
-/

set_option autoImplicit false

namespace Stagehand.Text

/-- The text that the bytes encode, if they encode one. -/
def decode? (bytes : List UInt8) : Option String :=
  String.fromUTF8? ⟨bytes.toArray⟩

/-- The bytes of a text. -/
def encode (text : String) : List UInt8 :=
  text.toUTF8.data.toList

/-- Reading gives back what was written. -/
theorem decode?_encode (text : String) : decode? (encode text) = some text := by
  have valid : (⟨text.toByteArray.data.toList.toArray⟩ : ByteArray).IsValidUTF8 := by
    simpa using text.isValidUTF8
  simp only [decode?, encode, String.toUTF8_eq_toByteArray, String.fromUTF8?, dif_pos valid]
  congr 1

end Stagehand.Text
