/-!
# JobShell.Text.Bytes — byte strings and the texts they encode

File contents, path names and everything written to a descriptor are byte strings; command lines
and messages are texts. `utf8` goes from a text to its bytes one character at a time, so that it
distributes over concatenation, and `ofUtf8?` goes back where the bytes are valid.
-/

namespace JobShell

/-- A string of bytes: what files, pipes and path names hold. -/
abbrev Bytes := List UInt8

namespace Text

/-- The UTF-8 encoding of a text. -/
def utf8 (text : String) : Bytes :=
  text.toList.flatMap String.utf8EncodeChar

/-- The text that the bytes encode, if they are valid UTF-8. -/
def ofUtf8? (bytes : Bytes) : Option String :=
  String.fromUTF8? (ByteArray.mk bytes.toArray)

@[simp] theorem utf8_append (s t : String) : utf8 (s ++ t) = utf8 s ++ utf8 t := by
  simp [utf8]

end Text

end JobShell
