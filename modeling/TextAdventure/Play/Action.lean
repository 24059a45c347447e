import TextAdventure.Play.Effect

/-! Commands that trigger an action of the world. A command that fits an action is used up by it, also
    when the player lacks what the action requires. -/

namespace TextAdventure

/-- What the player is told when an action without a text of its own lacks a required item. -/
def missingItemText : String := "You don't have that."

namespace Game

/-- One of the action's phrases has the command as its normal form. -/
def triggers (g : Game) (command : String) (action : Action) : Bool :=
  action.phrases.any fun phrase => g.normalizer.normalize phrase == command

/-- Runs an action whose phrases fit: its effect if all that it requires is carried, else the text for
    what is missing. -/
def perform (g : Game) (room : Room) (action : Action) (s : State) : State :=
  if action.requires.all s.carries then g.fire room action.effect s
  else s.say (action.missingText.getD missingItemText)

/-- Runs the action if the command triggers it. -/
def tryAction (g : Game) (room : Room) (command : String) (action : Action) (s : State) : Option State :=
  if g.triggers command action then some (g.perform room action s) else none

/-- Runs the first of the actions that the command triggers. -/
def tryActions (g : Game) (room : Room) (command : String) (actions : List Action) (s : State) : Option State :=
  actions.findSome? fun action => g.tryAction room command action s

end Game
end TextAdventure
