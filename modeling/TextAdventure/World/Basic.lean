import TextAdventure.Command.Language
import TextAdventure.Text.Quoted

/-! Worlds: rooms joined by exits, items that lie in them, and the actions that commands may trigger.
    A world never changes in play. -/

namespace TextAdventure
open Text

/-! ### What happens -/

/-- One step of an effect. Steps about a room concern the room in which the effect fires. -/
inductive Step where
  /-- Narrates a text. -/
  | say (text : String)
  /-- Shows a title. -/
  | title (text : String)
  /-- Shows a line of exits. -/
  | exits (text : String)
  /-- Blocks the room's exits in a direction. -/
  | block (direction : String)
  /-- Opens the room's exits in a direction. -/
  | unblock (direction : String)
  /-- Puts an item of the world into the inventory, wherever it is. -/
  | give (item : String)
  /-- Removes a carried item from the game. -/
  | consume (item : String)
  /-- Moves the player to a room of the world without any hook. -/
  | go (room : String)
  /-- Describes the room. -/
  | render
  /-- Narrates a label followed by the room and by where the player is. -/
  | whereabouts (label : String)
  /-- Lets the player enter a room of the world, with all its hooks. -/
  | enter (room : String)
deriving DecidableEq, Repr

/-- What an action or a hook does: its steps in order. Each step is an operation of the session, so no effect changes the
    game that is played. A program that runs code of its own where an effect fires has the whole session in its hands; such
    effects are those of another `Meaning`. -/
abbrev Effect := List Step

/-- Something that certain commands do, if the player carries what is required. -/
structure Action where
  id : Option String := none
  phrases : List String
  requires : List String := []
  missingText : Option String := none
  effect : Effect
deriving DecidableEq, Repr

/-! ### Things and places -/

/-- Where an item is when a session starts. -/
inductive Place where
  | room (id : String)
  | inventory
deriving DecidableEq, Repr

/-- Something that lies in a room, is carried, or is nowhere yet. -/
structure Item where
  name : String
  desc : String := ""
  /-- How the item is mentioned in the description of the room where it lies. -/
  roomText : String := ""
  gettable : Bool := true
  actions : List Action := []
  /-- Where the item starts; without a place it is nowhere until it is given. -/
  start : Option Place := none
deriving DecidableEq, Repr

/-- A way out of a room. Several may lead in one direction. -/
structure Exit where
  direction : String
  target : String
  /-- The exit is blocked when a session starts. -/
  blocked : Bool := false
deriving DecidableEq, Repr

/-- A place where the player can be. -/
structure Room where
  id : String
  name : String
  desc : String := ""
  exits : List Exit := []
  actions : List Action := []
  /-- What happens whenever the room is entered. -/
  onEnter : List Effect := []
deriving DecidableEq, Repr

/-- All that is declared of a world. -/
structure World where
  id : String
  name : String := ""
  prologue : String := ""
  startRoom : String
  /-- The rooms by their ids. A world that is built room by room, or that is loaded, has each room under its own id, and
      only such worlds are meant here; a program that fills the table of rooms by hand need not keep to it. -/
  rooms : Catalog Room.id := Catalog.empty
  items : List Item := []
  aliases : List AliasGroup := []
  junk : List String := []
  directions : List DirectionName := []

/-! ### Building worlds -/

/-- An action that `phrases` trigger. -/
def Action.ofPhrases (phrases : List String) (effect : Effect) : Action := { phrases, effect }

/-- The action with further items that it requires; their names are folded like those of items. -/
def Action.requiring (a : Action) (items : List String) : Action :=
  { a with requires := a.requires ++ items.map fold }

/-- The name of an action in messages: its id, else its first phrase. -/
def Action.label (a : Action) : String := a.id.getD (a.phrases.head?.getD "?")

/-- One line about an action for logs; its effect is left out. -/
def Action.summary (a : Action) : String :=
  let quoteAll (texts : List String) := "[" ++ ", ".intercalate (texts.map quote) ++ "]"
  let id := match a.id with
    | some id => "Some(" ++ quote id ++ ")"
    | none => "None"
  "Action \x7b id: " ++ id ++ ", phrases: " ++ quoteAll a.phrases ++ ", requires: " ++ quoteAll a.requires
    ++ ", .. \x7d"

/-- An item of this name, folded like the player's input. -/
def Item.ofName (name : String) : Item := { name := fold name }

/-- A bare room that is named by its id. -/
def Room.ofId (id : String) : Room := { id, name := id }

/-- The room with one more exit, whose direction is folded like the player's input. -/
def Room.addExit (r : Room) (direction target : String) (blocked : Bool := false) : Room :=
  { r with exits := r.exits ++ [⟨fold direction, target, blocked⟩] }

/-- The first exit in a direction. -/
def Room.exit? (r : Room) (direction : String) : Option Exit := r.exits.find? (·.direction == direction)

/-- The room of this id. -/
def World.room? (w : World) (id : String) : Option Room := w.rooms.get? id

/-- The id names a room of the world. -/
def World.hasRoom (w : World) (id : String) : Bool := w.rooms.contains id

/-- The first item of this name. -/
def World.item? (w : World) (name : String) : Option Item := w.items.find? (·.name == name)

/-- The world with a room, instead of one of the same id. -/
def World.addRoom (w : World) (room : Room) : World := { w with rooms := w.rooms.insert room }

/-- The world with one more item. -/
def World.addItem (w : World) (item : Item) : World := { w with items := w.items ++ [item] }

theorem World.id_of_room? {w : World} {id : String} {room : Room} (h : w.room? id = some room) :
    room.id = id := (Catalog.get?_eq_some_iff.mp h).2

theorem World.hasRoom_eq_isSome_room? (w : World) (id : String) : w.hasRoom id = (w.room? id).isSome := rfl

end TextAdventure
