import JobShell.Text.Bytes

/-!
# JobShell.Text.Lossy — bytes shown as a text

A path is a byte string and need not be a text. To be shown it is read a character at a time, and
where no character stands, one replacement character stands for the longest piece that a character
could have begun with: the first byte, and the bytes behind it that could follow.
-/

namespace JobShell.Text

/-- The shape of the encodings that have more than one byte: a range for the first byte, and one for
each byte behind it. -/
def longEncodings : List ((UInt8 × UInt8) × List (UInt8 × UInt8)) :=
  [((0xC2, 0xDF), [(0x80, 0xBF)]),
   ((0xE0, 0xE0), [(0xA0, 0xBF), (0x80, 0xBF)]),
   ((0xE1, 0xEC), [(0x80, 0xBF), (0x80, 0xBF)]),
   ((0xED, 0xED), [(0x80, 0x9F), (0x80, 0xBF)]),
   ((0xEE, 0xEF), [(0x80, 0xBF), (0x80, 0xBF)]),
   ((0xF0, 0xF0), [(0x90, 0xBF), (0x80, 0xBF), (0x80, 0xBF)]),
   ((0xF1, 0xF3), [(0x80, 0xBF), (0x80, 0xBF), (0x80, 0xBF)]),
   ((0xF4, 0xF4), [(0x80, 0x8F), (0x80, 0xBF), (0x80, 0xBF)])]

/-- Whether a byte lies in a closed range. -/
def isWithin (range : UInt8 × UInt8) (byte : UInt8) : Bool :=
  range.1 ≤ byte && byte ≤ range.2

/-- The bytes that may follow the first byte of a character, a range for each of them. -/
def continuations (first : UInt8) : List (UInt8 × UInt8) :=
  ((longEncodings.find? fun encoding => isWithin encoding.1 first).map (·.2)).getD []

/-- Drops bytes as long as each of them lies in the next range. -/
def dropWithin : List (UInt8 × UInt8) → Bytes → Bytes
  | range :: ranges, byte :: rest =>
    if isWithin range byte then dropWithin ranges rest else byte :: rest
  | _, bytes => bytes

theorem length_dropWithin_le (ranges : List (UInt8 × UInt8)) (bytes : Bytes) :
    (dropWithin ranges bytes).length ≤ bytes.length := by
  fun_induction dropWithin ranges bytes with
  | case1 range ranges byte rest _ ih =>
    rw [List.length_cons]
    omega
  | case2 => exact Nat.le_refl _
  | case3 => exact Nat.le_refl _

/-- The character that stands at the beginning of bytes. An encoding has at most four bytes. -/
def firstChar? (bytes : Bytes) : Option Char :=
  (bytes.take 4).toByteArray.utf8DecodeChar? 0

/-- What stands for bytes that are no character. -/
def replacement : Char := '\uFFFD'

/-- The characters that bytes are shown as. -/
def shown : Bytes → List Char
  | [] => []
  | first :: rest =>
    match firstChar? (first :: rest) with
    | some c => c :: shown (rest.drop (c.utf8Size - 1))
    | none => replacement :: shown (dropWithin (continuations first) rest)
termination_by bytes => bytes.length
decreasing_by
  · simp only [List.length_drop, List.length_cons]
    omega
  · have := length_dropWithin_le (continuations first) rest
    simp only [List.length_cons]
    omega

/-- The text that bytes are shown as. -/
def lossy (bytes : Bytes) : String :=
  String.ofList (shown bytes)

/-- A character is read from its encoding, whatever stands behind it. -/
theorem firstChar?_encoding_append (c : Char) (behind : Bytes) :
    firstChar? (String.utf8EncodeChar c ++ behind) = some c := by
  have hlength : (String.utf8EncodeChar c).length ≤ 4 := by
    rw [String.length_utf8EncodeChar]
    exact c.utf8Size_le_four
  rw [firstChar?, List.take_append, List.take_of_length_le hlength, List.toByteArray_append]
  exact ByteArray.utf8DecodeChar?_utf8EncodeChar_append

theorem shown_encoding_append (c : Char) (behind : Bytes) :
    shown (String.utf8EncodeChar c ++ behind) = c :: shown behind := by
  have hread := firstChar?_encoding_append c behind
  have hlength := String.length_utf8EncodeChar c
  obtain ⟨first, rest, hencoding⟩ := List.exists_cons_of_ne_nil (@String.utf8EncodeChar_ne_nil c)
  rw [hencoding, List.length_cons] at hlength
  rw [hencoding, List.cons_append] at hread ⊢
  have hbehind : (rest ++ behind).drop (c.utf8Size - 1) = behind := by
    rw [← hlength, Nat.add_sub_cancel, List.drop_left]
  rw [shown, hread]
  dsimp only
  rw [hbehind]

/-- A text is shown as it is. -/
@[simp] theorem lossy_utf8 (text : String) : lossy (utf8 text) = text := by
  have hshown (chars : List Char) : shown (chars.flatMap String.utf8EncodeChar) = chars := by
    induction chars with
    | nil => rw [List.flatMap_nil, shown]
    | cons c chars ih => rw [List.flatMap_cons, shown_encoding_append, ih]
  rw [lossy, utf8, hshown, String.ofList_toList]

example : lossy [0x61, 0xE2, 0x82, 0x62, 0xFF, 0xC3, 0xA9] = "a\uFFFDb\uFFFDé" := by
  cbv

end JobShell.Text
