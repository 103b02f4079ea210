import JobShell.Text.Lines

/-!
# JobShell.Proofs.Text.Encoding — bytes that are a text, and a newline behind them

A text is read from bytes exactly if the bytes are its encoding (`ofUtf8?_eq_some_iff`). A newline
behind the bytes is a newline behind the text, and it makes no text of bytes that are none: the last
byte of a longer character is never taken for one of its own.
-/

namespace JobShell.Text

theorem toByteArray_utf8 (text : String) : (utf8 text).toByteArray = text.toByteArray :=
  String.utf8Encode_toList

/-- The encoding is read back, and nothing else is read. -/
theorem ofUtf8?_eq_some_iff {bytes : Bytes} {text : String} :
    ofUtf8? bytes = some text ↔ bytes = utf8 text := by
  have hbytes : ByteArray.mk bytes.toArray = bytes.toByteArray :=
    ByteArray.ext (by simp)
  rw [← List.toByteArray_inj, toByteArray_utf8, ← hbytes, ofUtf8?, String.fromUTF8?]
  constructor
  · intro h
    split at h
    · rw [← Option.some.inj h]
      rfl
    · cases h
  · intro h
    have hvalid : (ByteArray.mk bytes.toArray).IsValidUTF8 := h ▸ text.isValidUTF8
    rw [dif_pos hvalid]
    exact congrArg some (String.toByteArray_inj.1 h)

/-- The encoding tells the text. -/
theorem utf8_inj {text other : String} : utf8 text = utf8 other ↔ text = other := by
  constructor
  · intro h
    have hread : ofUtf8? (utf8 text) = some other := ofUtf8?_eq_some_iff.2 h
    rw [ofUtf8?_eq_some_iff.2 rfl] at hread
    exact Option.some.inj hread
  · rintro rfl
    rfl

theorem utf8_ofList_append (before : List Char) (c : Char) :
    utf8 (String.ofList (before ++ [c])) =
      utf8 (String.ofList before) ++ String.utf8EncodeChar c := by
  simp [utf8]

theorem utf8_newline : utf8 "\n" = [newline] := by
  decide

/-- A character whose encoding ends in a newline is the newline: every byte but the first of an
encoding is marked as not being the first of one. -/
theorem eq_newline_of_encoding {c : Char} {before : Bytes}
    (h : String.utf8EncodeChar c = before ++ [newline]) : before = [] ∧ c = '\n' := by
  have hindex : before.length < (String.utf8EncodeChar c).length := by simp [h]
  have hbyte : (String.utf8EncodeChar c)[before.length] = newline := by simp [h]
  have hfirst : (String.utf8EncodeChar c)[before.length].IsUTF8FirstByte := by
    rw [hbyte]
    decide
  rw [UInt8.isUTF8FirstByte_getElem_utf8EncodeChar] at hfirst
  obtain rfl := List.length_eq_zero_iff.1 hfirst
  have hread : ofUtf8? [newline] = some (String.ofList [c]) :=
    ofUtf8?_eq_some_iff.2 (by simpa [utf8] using h.symm)
  rw [ofUtf8?_eq_some_iff.2 utf8_newline.symm] at hread
  have hchars := congrArg String.toList (Option.some.inj hread)
  exact ⟨rfl, by simpa using hchars.symm⟩

/-- A newline behind the bytes is one behind the text. -/
theorem ofUtf8?_append_newline (bytes : Bytes) :
    ofUtf8? (bytes ++ [newline]) = (ofUtf8? bytes).map (· ++ "\n") := by
  ext text
  rw [ofUtf8?_eq_some_iff, Option.map_eq_some_iff]
  constructor
  · intro h
    rcases List.eq_nil_or_concat text.toList with hnil | ⟨before, c, hsplit⟩
    · simp [utf8, hnil] at h
    · -- the newline is all of the last character
      have htext : text = String.ofList (before ++ [c]) := by
        rw [← List.concat_eq_append, ← hsplit, String.ofList_toList]
      rcases List.eq_nil_or_concat (String.utf8EncodeChar c) with hnone | ⟨front, last, hfront⟩
      · exact absurd hnone String.utf8EncodeChar_ne_nil
      · rw [List.concat_eq_append] at hfront
        rw [htext, utf8_ofList_append, hfront, ← List.append_assoc] at h
        obtain ⟨hbytes, hlast⟩ := List.append_inj' h rfl
        rw [← hlast] at hfront
        obtain ⟨rfl, rfl⟩ := eq_newline_of_encoding hfront
        refine ⟨String.ofList before, ofUtf8?_eq_some_iff.2 (by simpa using hbytes), ?_⟩
        rw [htext, String.ofList_append]
  · rintro ⟨before, hbefore, rfl⟩
    rw [utf8_append, utf8_newline, ofUtf8?_eq_some_iff.1 hbefore]

end JobShell.Text
