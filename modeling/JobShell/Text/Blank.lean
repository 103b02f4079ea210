/-!
# JobShell.Text.Blank — white space and the words between it

A character is blank when it has the Unicode property White_Space: 25 characters in ten ranges,
unchanged since version 6.3. `words` cuts a text into its maximal runs of other characters.

The cut is a fold from the right. Its state knows the word that the characters seen last belong to
and the finished words behind it, so a fact about a text follows from the fact about its tail.
-/

namespace JobShell.Text

/-- The characters with the property White_Space, as closed ranges, ascending and apart. -/
def blankRanges : List (Nat × Nat) :=
  [(0x09, 0x0D), (0x20, 0x20), (0x85, 0x85), (0xA0, 0xA0), (0x1680, 0x1680), (0x2000, 0x200A),
   (0x2028, 0x2029), (0x202F, 0x202F), (0x205F, 0x205F), (0x3000, 0x3000)]

/-- Whether a character is white space. -/
def isBlank (c : Char) : Bool :=
  blankRanges.any fun range => range.1 ≤ c.toNat && c.toNat ≤ range.2

/-- A text cut into words, read from its end: the word that its first characters belong to, empty
if the text starts with white space, and the finished words after it. -/
structure Split where
  opening : List Char
  finished : List (List Char)
deriving DecidableEq, Repr

namespace Split

/-- The cut of the empty text. -/
def empty : Split := ⟨[], []⟩

/-- All words of the text, the opening one included. -/
def words (s : Split) : List (List Char) :=
  if s.opening.isEmpty then s.finished else s.opening :: s.finished

/-- The cut after one more character in front. -/
def cons (c : Char) (s : Split) : Split :=
  if isBlank c then ⟨[], s.words⟩ else ⟨c :: s.opening, s.finished⟩

end Split

/-- The cut of a text. -/
def split (text : List Char) : Split :=
  text.foldr Split.cons Split.empty

/-- The maximal runs of characters that are not white space, in order. -/
def words (text : String) : List String :=
  (split text.toList).words.map String.ofList

/-- Whether a text holds white space only. -/
def isBlankText (text : String) : Bool :=
  text.toList.all isBlank

example : words " a  bc\t" = ["a", "bc"] := by decide +kernel

end JobShell.Text
