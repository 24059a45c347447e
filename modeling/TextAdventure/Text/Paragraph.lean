import TextAdventure.Text.Blank

/-! Text that authors wrap freely. Lines are trimmed and joined: lines that follow each other by a
    space, lines with one blank line between them by a line break, and lines further apart by an
    empty line. Blank lines at either end count for nothing. -/

namespace TextAdventure.Text

/-- The carriage return before a line feed belongs to the line's end. -/
def dropReturn (line : List Char) : List Char :=
  if line.getLast? = some '\r' then line.dropLast else line

/-- The lines of a text: the parts that a line feed ends, and what follows the last one unless it is
    empty. A carriage return that ends no line stays. -/
def lines (cs : List Char) : List (List Char) :=
  let parts := cs.splitOn '\n'
  parts.dropLast.map dropReturn ++ parts.getLast?.toList.filter (!·.isEmpty)

/-- What separates two lines of text that had `gap` blank lines between them. -/
def lineSeparator : (gap : Nat) → List Char
  | 0 => [' ']
  | 1 => ['\n']
  | _ => ['\n', '\n']

/-- The trimmed lines that follow a line of text after `gap` blank lines, each with its separator. -/
def continueText (gap : Nat) : List (List Char) → List Char
  | [] => []
  | [] :: rest => continueText (gap + 1) rest
  | line :: rest => lineSeparator gap ++ line ++ continueText 0 rest

/-- The trimmed lines joined, from the first that is not blank. -/
def joinLines : List (List Char) → List Char
  | [] => []
  | [] :: rest => joinLines rest
  | line :: rest => line ++ continueText 0 rest

/-- The text with its wrapping undone. -/
def tidy (s : String) : String := String.ofList (joinLines ((lines s.toList).map trimChars))

end TextAdventure.Text
