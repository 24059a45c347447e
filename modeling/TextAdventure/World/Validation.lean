import TextAdventure.World.Basic

/-! References that play relies on. `World.defects` reports every one that leads nowhere, in a fixed
    order: the rooms and their exits, the items and where they start, the actions of rooms, the
    actions of items. Rooms come in ascending order of their ids. -/

namespace TextAdventure

/-- Where an action or an effect is declared. -/
inductive Scope where
  | room (id : String)
  | item (name : String)
deriving DecidableEq, Repr

/-- How messages name a scope. -/
def Scope.text : Scope → String
  | .room id => s!"room '{id}'"
  | .item name => s!"item '{name}'"

/-- Something in a world that keeps it from being played. -/
inductive Defect where
  | noRooms
  | missingStartRoom (room : String)
  | missingExitTarget (room direction target : String)
  | missingItemRoom (item room : String)
  | duplicateItem (name : String)
  | unknownRequirement (scope : Scope) (action item : String)
  | noPhrases (scope : Scope)
deriving DecidableEq, Repr

/-- The wording of a defect. -/
def Defect.message : Defect → String
  | .noRooms => "world has no rooms"
  | .missingStartRoom room => s!"start_room '{room}' not found among rooms"
  | .missingExitTarget room direction target =>
    s!"room '{room}' has an exit '{direction}' to nonexistent room '{target}'"
  | .missingItemRoom item room => s!"item '{item}' start_location room '{room}' not found"
  | .duplicateItem name => s!"item name '{name}' is declared more than once"
  | .unknownRequirement scope action item => s!"{scope.text} action '{action}' requires unknown item '{item}'"
  | .noPhrases scope => s!"{scope.text} action has no trigger phrases"

/-- The wording of several defects together. -/
def Defect.report (defects : List Defect) : String :=
  "world validation failed: " ++ "; ".intercalate (defects.map Defect.message)

namespace World

/-- The exits of a room that lead to no room. -/
def exitDefects (w : World) (room : Room) : List Defect :=
  (room.exits.filter fun exit => !w.hasRoom exit.target).map fun exit =>
    .missingExitTarget room.id exit.direction exit.target

/-- What is wrong with an item that is declared after the items named `earlier`. -/
def itemDefects (w : World) (earlier : List String) (item : Item) : List Defect :=
  (if earlier.contains item.name then [.duplicateItem item.name] else []) ++
    match item.start with
    | some (.room id) => if w.hasRoom id then [] else [.missingItemRoom item.name id]
    | _ => []

/-- What is wrong with items that are declared after the items named `earlier`. -/
def itemsDefects (w : World) (earlier : List String) : List Item → List Defect
  | [] => []
  | item :: rest => w.itemDefects earlier item ++ w.itemsDefects (item.name :: earlier) rest

/-- What is wrong with an action. -/
def actionDefects (w : World) (scope : Scope) (action : Action) : List Defect :=
  (if action.phrases.isEmpty then [.noPhrases scope] else []) ++
    (action.requires.filter fun name => (w.item? name).isNone).map fun name =>
      .unknownRequirement scope action.label name

/-- Everything that is wrong with the world. -/
def defects (w : World) : List Defect :=
  (if w.rooms.isEmpty then [.noRooms] else [])
    ++ (if w.hasRoom w.startRoom then [] else [.missingStartRoom w.startRoom])
    ++ w.rooms.values.flatMap w.exitDefects
    ++ w.itemsDefects [] w.items
    ++ w.rooms.values.flatMap (fun room => room.actions.flatMap (w.actionDefects (.room room.id)))
    ++ w.items.flatMap fun item => item.actions.flatMap (w.actionDefects (.item item.name))

end World
end TextAdventure
