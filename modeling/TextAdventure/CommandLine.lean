import TextAdventure.World.Lantern
import TextAdventure.World.Loading
import TextAdventure.Text.Paragraph
import TextAdventure.Play.Session

/-! The program as a function of its arguments, the files it may read and the lines it is given. -/

namespace TextAdventure.CommandLine
open Text

/-! ### Arguments -/

/-- What the arguments ask for. -/
inductive Request where
  /-- Play the world of a file, or that of `lanternPath` if none is named. -/
  | play (path : Option String)
  | version
  | help
  /-- The arguments mean nothing. -/
  | refused
deriving DecidableEq, Repr

/-- What flags of one letter each ask for, if they do not ask to go on with `next`. -/
def Request.ofFlags (next : Request) : List Char → Request
  | [] => next
  | 'v' :: flags => ofFlags next flags
  | 'V' :: _ => .version
  | 'h' :: _ => .help
  | _ => .refused

/-- What the arguments ask for after the world's file, if `path` is one. The first of them that asks for
    something else or means nothing decides. After two dashes (`plain`) there are no more flags. -/
def Request.ofArguments (path : Option String) (plain : Bool) : List String → Request
  | [] => .play path
  | arg :: rest =>
    match arg.toList with
    | '-' :: flag :: flags =>
      if plain then if path.isSome then .refused else ofArguments (some arg) plain rest
      else if arg == "--" then ofArguments path true rest
      else if arg == "--verbose" then ofArguments path plain rest
      else if arg == "--version" then .version
      else if arg == "--help" then .help
      else ofFlags (ofArguments path plain rest) (flag :: flags)
    | [] => .refused
    | _ => if path.isSome then .refused else ofArguments (some arg) plain rest

/-! ### A session in the terminal -/

/-- A block as it is printed. -/
def printedBlock : Block → String
  | .title s => "\n" ++ s ++ "\n"
  | .text s => s ++ "\n"
  | .exits s => "\n" ++ s ++ "\n"

/-- Output as it is printed. -/
def printed (o : Output) : String := String.join (o.blocks.map printedBlock)

/-- What stands before each line of the player. -/
def prompt : String := "> "

/-- What is printed when there are no more lines. -/
def farewell : String := "\nGoodbye.\n"

/-- What is printed after the opening. -/
def hint : String := "\nType 'look' to look around, 'quit' to exit.\n"

/-- The game as it is played in the terminal, which describes each room that is entered. -/
def terminalGame (g : Game) : Game := g.onMove [.render]

/-- The opening of a session and the state after it. -/
def openSession (g : Game) (s : State) : State × String :=
  let (s, out) := g.opening s
  (s, printed out ++ hint)

/-- The answer to a line, and whether the player leaves the game. A blank line gets none. -/
def answer (g : Game) (line : String) (s : State) : State × String × Bool :=
  if allBlank line then (s, "", false)
  else
    let (s, out, quit) := g.step (trim line) s
    (s, printed out, quit)

/-- What is printed while the player writes `lines`, up to the line that leaves the game. -/
def converse (g : Game) : List String → State → String
  | [], _ => prompt ++ farewell
  | line :: rest, s =>
    let (s, text, quit) := answer g line s
    prompt ++ text ++ if quit then "" else converse g rest s

/-- All that is printed in a session in which the player writes `input`. -/
def transcript (session : Session) (input : String) : String :=
  let g := terminalGame session.game
  let (s, text) := openSession g session.state
  text ++ converse g ((lines input.toList).map String.ofList) s

/-! ### The program -/

/-- What the program prints, what it complains about line by line, and its exit code. -/
structure Outcome where
  output : String := ""
  errors : List String := []
  code : UInt8 := 0
deriving DecidableEq, Repr

/-- How the program is called. -/
def usage : String := "Usage: advent [OPTIONS] [WORLD]"

/-- What the program does, and what its arguments mean. -/
def helpText : String := "\n".intercalate [
  "Play a text adventure described by a TOML world file",
  "",
  usage,
  "",
  "Arguments:",
  "  [WORLD]  World file to load [default: " ++ lanternPath ++ "]",
  "",
  "Options:",
  "  -v, --verbose...  Increase log verbosity (-v info, -vv debug, -vvv trace)",
  "  -h, --help        Print help",
  "  -V, --version     Print version",
  ""]

/-- Starts a session in English of the world that the file at `path` has, given its bytes. An error comes with its
    message. -/
def startSession (path : String) (bytes : Option ByteArray) : Except String Session := do
  let world ← (World.ofBytes bytes).mapError fun e => s!"Failed to load world file '{path}': {e.message}"
  (Session.start world .english).mapError Defect.report

/-- The program. `read` gives the bytes of the files that there are; the world's file is read from them, also where the
    arguments name none. -/
def run (read : String → Option ByteArray) (arguments : List String) (input : String) : Outcome :=
  match Request.ofArguments none false arguments with
  | .version => { output := "advent 0.1.0\n" }
  | .help => { output := helpText }
  | .refused => { errors := [usage], code := 2 }
  | .play path =>
    let path := path.getD lanternPath
    match startSession path (read path) with
    | .error message => { errors := [message], code := 1 }
    | .ok session => { output := transcript session input }

end TextAdventure.CommandLine
