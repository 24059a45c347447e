import TextAdventure.World.Basic
import TextAdventure.Play.Output

/-! The state of a session: where the player is, where the items are, which exits are blocked, and the
    output that nobody has read yet. The operations of this file are the only ways in which it changes. -/

namespace TextAdventure

/-- The carried items, in ascending order of their names. -/
abbrev Inventory := Catalog Item.name

/-- An item that lies in a room. -/
structure LyingItem where
  room : String
  item : Item
deriving DecidableEq, Repr

/-- The exits of a room in one direction. -/
structure Passage where
  room : String
  direction : String
deriving DecidableEq, Repr

/-- All that changes while a session runs. -/
structure State where
  /-- The id of the room where the player is. -/
  here : String
  inventory : Inventory := Catalog.empty
  /-- The items that lie in rooms, those that were put down last at the end. -/
  lying : List LyingItem := []
  /-- The passages that are blocked. Only membership counts. -/
  blocked : List Passage := []
  /-- The output that has not been taken yet. -/
  out : Output := {}

namespace State

/-! ### Questions -/

/-- The items that lie in a room, in the order in which they came there. -/
def itemsIn (s : State) (room : String) : List Item :=
  (s.lying.filter (·.room == room)).map LyingItem.item

/-- The first item of this name that lies in a room. -/
def itemIn? (s : State) (room name : String) : Option Item := (s.itemsIn room).find? (·.name == name)

/-- An exit of a room is blocked. -/
def exitBlocked (s : State) (room : String) (exit : Exit) : Bool := s.blocked.contains ⟨room, exit.direction⟩

/-- The exits of a room that are open, in order of declaration. -/
def openExits (s : State) (room : Room) : List Exit := room.exits.filter fun exit => !s.exitBlocked room.id exit

/-- An item of this name is carried. -/
def carries (s : State) (name : String) : Bool := s.inventory.contains name

/-! ### Changes -/

/-- The state with a narrated text. -/
def say (s : State) (text : String) : State := { s with out := s.out.say text }

/-- The state with nothing left to read. -/
def clearOutput (s : State) : State := { s with out := {} }

/-- Blocks or opens the exits of a room in a direction. Nothing happens unless the world has one. -/
def setExitBlocked (w : World) (room direction : String) (blocked : Bool) (s : State) : State :=
  match (w.room? room).bind (·.exit? direction) with
  | none => s
  | some _ =>
    let others := s.blocked.filter (· != ⟨room, direction⟩)
    { s with blocked := if blocked then others ++ [⟨room, direction⟩] else others }

/-- Moves the player to a room without any hook. Nothing happens unless the world has the room. -/
def goTo (w : World) (room : String) (s : State) : State :=
  if w.hasRoom room then { s with here := room } else s

/-- Puts the item of this name into the inventory, wherever it is. Nothing happens unless the world
    has one. -/
def give (w : World) (name : String) (s : State) : State :=
  match w.item? name with
  | none => s
  | some item => { s with
      lying := s.lying.filter (·.item.name != name)
      inventory := s.inventory.insert item }

/-- Removes a carried item for good. -/
def consume (name : String) (s : State) : State := { s with inventory := s.inventory.erase name }

/-- Moves the first item of this name from a room into the inventory. -/
def pickUp (room : String) (item : Item) (s : State) : State :=
  { s with
    lying := s.lying.eraseP fun l => l.room == room && l.item.name == item.name
    inventory := s.inventory.insert item }

/-- Moves a carried item from the inventory to the end of what lies in a room. -/
def putDown (room : String) (item : Item) (s : State) : State :=
  { s with
    inventory := s.inventory.erase item.name
    lying := s.lying ++ [⟨room, item⟩] }

/-! ### What the changes do -/

theorem exitBlocked_setExitBlocked (w : World) (room direction : String) (b : Bool) (s : State)
    (room' : String) (exit : Exit) :
    (s.setExitBlocked w room direction b).exitBlocked room' exit =
      if ((w.room? room).bind (·.exit? direction)).isSome ∧ room = room' ∧ direction = exit.direction then b
      else s.exitBlocked room' exit := by
  unfold setExitBlocked
  split
  · next h => simp [h]
  · next h =>
    simp only [h, Option.isSome_some, true_and, exitBlocked, List.contains_eq_mem]
    by_cases hp : room = room' ∧ direction = exit.direction
    · obtain ⟨rfl, rfl⟩ := hp
      cases b <;> simp
    · have hne : (⟨room', exit.direction⟩ : Passage) ≠ ⟨room, direction⟩ := by
        intro h
        injection h with h₁ h₂
        exact hp ⟨h₁.symm, h₂.symm⟩
      rw [if_neg hp]
      cases b <;> simp [hne]

theorem itemsIn_give (w : World) (name : String) (s : State) (room : String) :
    (s.give w name).itemsIn room =
      if (w.item? name).isSome then (s.itemsIn room).filter (·.name != name) else s.itemsIn room := by
  unfold give
  split
  · next h => simp [h]
  · next h =>
    simp only [h, Option.isSome_some, if_true, itemsIn, List.filter_filter, List.filter_map]
    congr 2
    funext l
    simp [Bool.and_comm]

theorem itemsIn_putDown (room : String) (item : Item) (s : State) (room' : String) :
    (s.putDown room item).itemsIn room' = s.itemsIn room' ++ if room = room' then [item] else [] := by
  by_cases h : room = room' <;> simp [putDown, itemsIn, h]

/-- Picking up takes the first item of the name out of its room and leaves the other rooms alone. -/
theorem itemsIn_pickUp (room : String) (item : Item) (s : State) (room' : String) :
    (s.pickUp room item).itemsIn room' =
      if room = room' then (s.itemsIn room').eraseP (·.name == item.name) else s.itemsIn room' := by
  simp only [pickUp, itemsIn]
  induction s.lying with
  | nil => simp
  | cons l rest ih =>
    obtain ⟨r, i⟩ := l
    by_cases hr : r = room <;> by_cases hn : i.name = item.name <;> by_cases hr' : room = room' <;> grind

end State
end TextAdventure
