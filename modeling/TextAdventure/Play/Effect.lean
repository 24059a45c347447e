import TextAdventure.Command.Normalizer
import TextAdventure.Play.Render

/-! What effects do, and what happens when a room is entered. Hooks may let the player enter further
    rooms, and each entry fires all hooks again. A room that is entered within its own entry would be
    entered without end, so a chain of entries that ends visits no room twice: it is no longer than
    the world has rooms, plus one for a room from outside the world. -/

namespace TextAdventure

/-- What is fixed while a session runs. -/
structure Game where
  world : World
  normalizer : Normalizer
  directions : Directions
  /-- What happens after every move, before the hooks of the room that is entered. -/
  moveHooks : List Effect := []

/-- What a step does when it fires in `room`. `enter` lets the player enter a room. -/
def Step.run (w : World) (enter : Room → State → State) (room : Room) (s : State) : Step → State
  | .say text => s.say text
  | .title text => { s with out := s.out.title text }
  | .exits text => { s with out := s.out.setExits text }
  | .block direction => s.setExitBlocked w room.id direction true
  | .unblock direction => s.setExitBlocked w room.id direction false
  | .give item => s.give w item
  | .consume item => s.consume item
  | .go id => s.goTo w id
  | .render => s.render room
  | .whereabouts label => s.say (label ++ room.id ++ "|" ++ s.here)
  | .enter id =>
    match w.room? id with
    | some next => enter next s
    | none => s

/-- What an effect does when it fires in `room`: its steps in order. -/
def Effect.run (w : World) (enter : Room → State → State) (room : Room) (effect : Effect) (s : State) : State :=
  effect.foldl (Step.run w enter room) s

namespace Game

/-- Lets the player enter `next`: it becomes the current room, then the hooks of moves and those of the
    room fire in order. `depth` bounds the chains of entries within entries. -/
def enterWithin (g : Game) : (depth : Nat) → Room → State → State
  | 0, _, s => s
  | depth + 1, next, s =>
    (g.moveHooks ++ next.onEnter).foldl (fun s hook => Effect.run g.world (g.enterWithin depth) next hook s)
      { s with here := next.id }

/-- Lets the player enter a room. Hooks that enter rooms in a circle go on without end, and the command that started them is
    never answered; here they come to an end all the same, as the innermost entry does nothing. -/
def enter (g : Game) (next : Room) (s : State) : State := g.enterWithin (g.world.rooms.size + 1) next s

/-- Fires an effect in a room. -/
def fire (g : Game) (room : Room) (effect : Effect) (s : State) : State :=
  Effect.run g.world g.enter room effect s

end Game
end TextAdventure
