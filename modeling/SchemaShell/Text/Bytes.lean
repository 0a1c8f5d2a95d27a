/-!
# Bytes of a text

Texts travel as UTF-8. Decoding refuses every row of bytes that is not the encoding of a text.
-/

namespace SchemaShell.Text

def bytes (text : String) : List UInt8 :=
  text.toUTF8.data.toList

/-- The text with these bytes, if there is one. -/
def ofBytes? (bytes : List UInt8) : Option String :=
  String.fromUTF8? ⟨bytes.toArray⟩

theorem ofBytes?_bytes (text : String) : ofBytes? (bytes text) = some text := by
  simp only [ofBytes?, bytes, Array.toArray_toList, String.fromUTF8?,
    String.toUTF8_eq_toByteArray, dif_pos text.isValidUTF8]
  rfl

theorem bytes_append (first second : String) :
    bytes (first ++ second) = bytes first ++ bytes second := by
  simp [bytes]

@[simp] theorem bytes_empty : bytes "" = [] := rfl

end SchemaShell.Text
