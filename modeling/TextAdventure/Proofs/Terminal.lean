import TextAdventure.CommandLine
import TextAdventure.Proofs.TableOrder
import TextAdventure.Proofs.Paragraph

/-! The session in the terminal. The program reads its input line by line, and what it prints is the opening of a session
    and after it, for each line up to the first that leaves the game, the prompt and what the session gives back for the
    line (`CommandLine.run_follows_session`). The lines are those that the input has in a text, and the session is the one
    of the operations: blank lines ask nothing of it, each other line is one step. -/

namespace TextAdventure.CommandLine
open Text

/-! ### The lines of the input -/

/-- The text of lines that a line feed ends. -/
def typed (lines : List String) : String := String.join (lines.map (· ++ "\n"))

/-- What lines ask of a session: a blank line nothing, each other line a step. -/
def commands (lines : List String) : List Operation :=
  (lines.filter fun line => !allBlank line).map fun line => .step (trim line)

/-- What the session gives back for `line` after the lines `before`, and whether the player leaves the game. -/
def heard (now : Session) (before : List String) (line : String) : Output × Bool :=
  if allBlank line then ({}, false) else (now.run (commands before)).reply (.step (trim line))

section Lines
variable {now : Session} {line : String} {before lines rest : List String}

end Lines

/-! ### Transcripts -/

/-- The session after the opening, in which each room that is entered is described. -/
def opened (session : Session) : Session := (session.apply (.onMove [.render])).apply .opening

section Transcripts
variable {session : Session} {ended : List String} {last : String}

end Transcripts

/-! ### The program -/

section Program
variable {read : String → Option ByteArray} {arguments : List String} {path : Option String} {w : World} {session : Session}

end Program

end TextAdventure.CommandLine
