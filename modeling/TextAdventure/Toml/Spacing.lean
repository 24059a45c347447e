/-! What may stand between the parts of a TOML document: blanks, comments and the ends of lines. -/

namespace TextAdventure.Toml

/-- A space or a tab. -/
def isInlineBlank (c : Char) : Bool := c == ' ' || c == '\t'

/-- The character may stand in a comment or a string: it is a tab or no control character. -/
def isPlainChar (c : Char) : Bool := c == '\t' || (' ' ≤ c && c != '\x7f')

/-- The rest of the text after blanks within a line. -/
def skipBlanks (cs : List Char) : List Char := cs.dropWhile isInlineBlank

/-- The text starts with the end of a line: a line feed, or a carriage return with one. -/
def atNewline : List Char → Bool
  | '\n' :: _ => true
  | '\r' :: '\n' :: _ => true
  | _ => false

/-- The text without the end of a line at its start. -/
def dropNewline : List Char → List Char
  | '\n' :: cs => cs
  | '\r' :: '\n' :: cs => cs
  | cs => cs

/-- The rest of the text after blanks, ends of lines and comments; nothing if a comment holds a
    character that it may not hold, or a carriage return ends no line. -/
def skipGap (inComment : Bool) : List Char → Option (List Char)
  | [] => some []
  | c :: cs =>
    if c == '\n' then skipGap false cs
    else if c == '\r' then if cs.head? == some '\n' then skipGap false cs else none
    else if inComment then if isPlainChar c then skipGap true cs else none
    else if isInlineBlank c then skipGap false cs
    else if c == '#' then skipGap true cs
    else some (c :: cs)

/-- The rest of the text after the end of the current line, before which only blanks and a comment may
    stand. -/
def endLine (inComment : Bool) : List Char → Option (List Char)
  | [] => some []
  | c :: cs =>
    if atNewline (c :: cs) then some (dropNewline (c :: cs))
    else if inComment then if isPlainChar c then endLine true cs else none
    else if isInlineBlank c then endLine false cs
    else if c == '#' then endLine true cs
    else none

end TextAdventure.Toml
