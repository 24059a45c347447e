import TextAdventure.Play.Effect

/-! Moving through exits. Of the open exits whose direction the command names, the first declared one
    is taken. -/

namespace TextAdventure

/-- What became of a command that may be a move. -/
inductive MoveOutcome where
  /-- The player changed rooms, and all hooks fired. -/
  | moved
  /-- The room has no exits at all. -/
  | trapped
  /-- The exit leads to no room of the world. -/
  | broken
  /-- The command names no open exit. -/
  | notAMove
deriving DecidableEq, Repr

/-- The command needs no further answer. -/
def MoveOutcome.handled (m : MoveOutcome) : Bool := m != .notAMove

namespace Game

/-- The command names the exit, by its direction or by the direction's full name. -/
def names (g : Game) (command : String) (exit : Exit) : Bool :=
  command == exit.direction || g.directions.fullName? exit.direction == some command

/-- The first declared open exit of `room` that the command names. -/
def exitFor? (g : Game) (room : Room) (command : String) (s : State) : Option Exit :=
  room.exits.find? fun exit => !s.exitBlocked room.id exit && g.names command exit

/-- Takes the command as a move out of `room`. -/
def tryMove (g : Game) (room : Room) (command : String) (s : State) : MoveOutcome × State :=
  if room.exits.isEmpty then (.trapped, s.say "You are trapped!")
  else
    match g.exitFor? room command s with
    | none => (.notAMove, s)
    | some exit =>
      match g.world.room? exit.target with
      | none =>
        (.broken, s.say s!"You try to go {exit.direction}, but something feels wrong (room not found).")
      | some next => (.moved, g.enter next s)

end Game
end TextAdventure
