import TextAdventure.Text.Property.Word
import TextAdventure.Text.Blank

/-! Words: runs of word characters, and everything else between them. Two views of a text stand
    here side by side: `words`, its maximal runs of word characters, and `collapse`, the text with
    every gap between them made one space. -/

namespace TextAdventure.Text

/-- The character may stand in a word: a letter, a mark, a decimal digit, a connector or a joiner. -/
def isWordChar (c : Char) : Bool := covered wordRanges c.toNat

/-- The text is one word: not empty and made of word characters only. -/
def isWord (s : String) : Bool := !s.isEmpty && s.toList.all isWordChar

/-! ### Words of a text -/

/-- The maximal runs of word characters of a text, in order. -/
def words (s : String) : List String :=
  ((s.toList.splitOnP (!isWordChar ·)).filter (!·.isEmpty)).map String.ofList

/-! ### Gaps made one space -/

/-- Every run of characters outside words becomes one space. `inGap` tells that the space of the
    current run is already written. -/
def spaceGaps (inGap : Bool) : List Char → List Char
  | [] => []
  | c :: cs =>
    if isWordChar c then c :: spaceGaps false cs
    else if inGap then spaceGaps true cs
    else ' ' :: spaceGaps true cs

/-- The words of a text with one space between two of them and none outside. -/
def collapse (s : String) : String := String.ofList (trimChars (spaceGaps false s.toList))

/-! ### Space-separated tokens -/

/-- The parts of a text between its spaces; a text without a space is its only part. -/
def splitSpaces (s : String) : List String := (s.toList.splitOn ' ').map String.ofList

/-- The tokens in a row with a space between two of them. -/
def joinSpaces (tokens : List String) : String := " ".intercalate tokens

/-- A text cut at its first space; without one, the whole text and nothing. -/
def cutAtSpace (s : String) : String × String :=
  (String.ofList (s.toList.takeWhile (· != ' ')), String.ofList ((s.toList.dropWhile (· != ' ')).drop 1))

end TextAdventure.Text
