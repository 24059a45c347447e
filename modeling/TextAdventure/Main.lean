import TextAdventure.CommandLine

/-! The program in a terminal: it reads the world's file, then line by line what the player writes. -/

namespace TextAdventure.CommandLine

/-- The bytes of a file, if it can be read. -/
def readFile? (path : String) : IO (Option ByteArray) := do
  try
    return some (← IO.FS.readBinFile path)
  catch _ =>
    return none

/-- Answers the player's lines until one leaves the game or there are no more. -/
partial def loop (g : Game) (s : State) : IO Unit := do
  let stdout ← IO.getStdout
  stdout.putStr prompt
  stdout.flush
  let line ← (← IO.getStdin).getLine
  if line.isEmpty then
    stdout.putStr farewell
  else
    let (s, text, quit) := answer g line s
    stdout.putStr text
    unless quit do loop g s

end TextAdventure.CommandLine

open TextAdventure CommandLine

/-- Plays a world in the terminal, or does what else the arguments ask for. -/
def main (arguments : List String) : IO UInt32 := do
  match Request.ofArguments none false arguments with
  | .play path =>
    let path := path.getD lanternPath
    match startSession path (← readFile? path) with
    | .error message =>
      IO.eprintln message
      return 1
    | .ok session =>
      let g := terminalGame session.game
      let (s, text) := openSession g session.state
      IO.print text
      loop g s
      return 0
  | _ =>
    let outcome := run (fun _ => none) arguments ""
    IO.print outcome.output
    for line in outcome.errors do
      IO.eprintln line
    return outcome.code.toUInt32
