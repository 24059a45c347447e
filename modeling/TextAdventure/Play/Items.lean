import TextAdventure.Play.Render

/-! The built-in commands about items: taking, dropping, examining, and listing what is carried. -/

namespace TextAdventure
open Text

namespace State

/-- Lists what is carried. -/
def listInventory (s : State) : State :=
  if s.inventory.isEmpty then s.say "You are carrying nothing."
  else s.inventory.values.foldl (fun s item => s.say ("  " ++ item.name)) (s.say "You are carrying:")

/-- Takes the item of this name that lies in `room`. -/
def take (room : Room) (name : String) (s : State) : State :=
  if name == "" then s.say "Take what?"
  else
    match s.itemIn? room.id name with
    | none => s.say "You can't take that."
    | some item =>
      if item.gettable then (s.say s!"You take the {item.name}.").pickUp room.id item
      else s.say s!"You can't take the {item.name}."

/-- Drops the carried item of this name in `room`. -/
def drop (room : Room) (name : String) (s : State) : State :=
  if name == "" then s.say "Drop what?"
  else
    match s.inventory.get? name with
    | none => s.say s!"You have no {name}."
    | some item => (s.say s!"You drop the {item.name}.").putDown room.id item

/-- Looks closely at an item of this name, a carried one before one that lies in `room`. -/
def examine (room : Room) (name : String) (s : State) : State :=
  if name == "" then s.say "Examine what?"
  else
    match (s.inventory.get? name).or (s.itemIn? room.id name) with
    | none => s.say "You don't see that here."
    | some item =>
      let text := trim item.desc
      s.say (if text == "" then s!"You see nothing special about the {item.name}." else text)

end State
end TextAdventure
