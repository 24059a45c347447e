import TextAdventure.Play.State

/-! The description of a room as the player sees it now: its name, its text with the items that lie
    there, and the exits that are open. -/

namespace TextAdventure
open Text

/-- How an item is mentioned where it lies. -/
def Item.mention (item : Item) : String :=
  let text := trim item.roomText
  if text == "" then s!"There is a {item.name} here." else text

namespace State

/-- The text of a room: its description, unless it is blank, and a mention of each item, with a space
    between two of them. -/
def roomText (s : State) (room : Room) : String :=
  joinSpaces ((trim room.desc :: (s.itemsIn room.id).map Item.mention).filter (· != ""))

/-- The directions with an open exit, in ascending order, each once. -/
def openDirections (s : State) (room : Room) : List String :=
  (Catalog.ofList id ((s.openExits room).map Exit.direction)).values

/-- The line that lists the open exits. -/
def exitsLine (s : State) (room : Room) : String :=
  match s.openDirections room with
  | [] => "Exits: (none)"
  | directions => "Exits: " ++ ", ".intercalate directions

/-- Describes a room. -/
def render (room : Room) (s : State) : State :=
  { s with out := ((s.out.title room.name).say (s.roomText room)).setExits (s.exitsLine room) }

end State
end TextAdventure
