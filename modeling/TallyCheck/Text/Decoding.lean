/-! # Bytes read as text

Bytes are read as UTF-8, either as a whole or up to a last character that may be cut short.
-/
namespace TallyCheck.Text
set_option autoImplicit false

def decode? (bytes : ByteArray) : Option String := String.fromUTF8? bytes

theorem decode?_toUTF8 (text : String) : decode? text.toUTF8 = some text := by
  rw [decode?, String.fromUTF8?, String.toUTF8_eq_toByteArray, dif_pos text.isValidUTF8]
  rfl

/-- The text of the bytes up to a last character that is incomplete; none if that is not all that
is wrong with them. -/
def decodeCut? (bytes : ByteArray) : Option String :=
  (List.range 4).findSome? fun missing => decode? (bytes.extract 0 (bytes.size - missing))

theorem decodeCut?_toUTF8 (text : String) : decodeCut? text.toUTF8 = some text := by
  have hWhole : text.toUTF8.extract 0 (text.toUTF8.size - 0) = text.toUTF8 :=
    ByteArray.extract_zero_size
  rw [decodeCut?, List.range_succ_eq_map, List.findSome?_cons, hWhole, decode?_toUTF8]

end TallyCheck.Text
