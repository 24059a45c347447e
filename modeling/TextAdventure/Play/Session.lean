import TextAdventure.World.Validation
import TextAdventure.Play.Movement
import TextAdventure.Play.Action
import TextAdventure.Play.Items

/-! Sessions. A command is offered to movement, to the actions of the room, to the actions of carried
    items and to the built-in commands, in this order, and the first that answers it ends it. -/

namespace TextAdventure
open Text

namespace Game

/-- The input asks to leave the game. -/
def isQuit (input : String) : Bool := input == "quit" || input == "exit"

/-- The built-in command that `input` is, performed in `room`. The flag tells that the player leaves
    the game. -/
def runBuiltIn (room : Room) (input : String) (s : State) : State × Bool :=
  if isQuit input then (s.say "Goodbye.", true)
  else if input == "i" || input == "inventory" then (s.listInventory, false)
  else if input == "look" then (s.render room, false)
  else
    let (verb, name) := cutAtSpace input
    match verb with
    | "examine" => (s.examine room name, false)
    | "take" => (s.take room name, false)
    | "drop" => (s.drop room name, false)
    | _ => (s.say "You can't do that.", false)

/-- The actions that carried items offer, in the order of the items' names. -/
def carriedActions (s : State) : List Action := s.inventory.values.flatMap Item.actions

/-- Answers a command in normal form that is given in `room`. The flag tells that the player leaves the
    game. Where there is no way out, nothing but leaving the game gets an answer of its own. -/
def resolve (g : Game) (room : Room) (input : String) (s : State) : State × Bool :=
  if room.exits.isEmpty && isQuit input then (s.say "Goodbye.", true)
  else
    let (outcome, s) := g.tryMove room input s
    if outcome.handled then (s, false)
    else
      match g.tryActions room input room.actions s with
      | some s => (s, false)
      | none =>
        match g.tryActions room input (carriedActions s) s with
        | some s => (s, false)
        | none => runBuiltIn room input s

/-- Answers a command as the player typed it. The output stays in the state; the flag tells that the
    player leaves the game. -/
def handle (g : Game) (raw : String) (s : State) : State × Bool :=
  match g.world.room? s.here with
  | none => (s.say s!"Error: you are in an unknown room '{s.here}'", false)
  | some room => g.resolve room (g.normalizer.normalize raw) s

/-- Answers a command and takes the output. -/
def step (g : Game) (raw : String) (s : State) : State × Output × Bool :=
  let (s, quit) := g.handle raw s
  (s.clearOutput, s.out, quit)

/-- The opening: the world's name, its prologue and the room where the player is. The output is taken. -/
def opening (g : Game) (s : State) : State × Output :=
  let opened := { s with out := (s.out.title g.world.name).say g.world.prologue }
  let shown := match g.world.room? s.here with
    | some room => opened.render room
    | none => opened
  (shown.clearOutput, shown.out)

/-- The game with one more hook after moves. -/
def onMove (g : Game) (hook : Effect) : Game := { g with moveHooks := g.moveHooks ++ [hook] }

end Game

/-! ### The start of a session -/

/-- The game of a world in a language. The world's aliases, junk words and directions join those of the
    language; its aliases and directions win. -/
def World.gameIn (w : World) (language : Language) : Game where
  world := w
  normalizer := .ofTables (language.junk ++ w.junk) (.ofGroups language.aliases w.aliases)
  directions := language.directions.insertAll (w.directions.map fun d => ⟨fold d.short, fold d.full⟩)

/-- Where the world's items, exits and player are at the start. -/
def World.initialState (w : World) : State where
  here := w.startRoom
  inventory := Catalog.ofList Item.name (w.items.filter (·.start == some .inventory))
  lying := w.items.filterMap fun item =>
    match item.start with
    | some (.room id) => some ⟨id, item⟩
    | _ => none
  blocked := w.rooms.values.flatMap fun room =>
    (room.exits.filter Exit.blocked).map fun exit => ⟨room.id, exit.direction⟩

/-- A game and the state it is in. -/
structure Session where
  game : Game
  state : State

/-- A session of a world in a language, unless the world has defects. -/
def Session.start (w : World) (language : Language) : Except (List Defect) Session :=
  match w.defects with
  | [] => .ok ⟨w.gameIn language, w.initialState⟩
  | defects => .error defects

end TextAdventure
