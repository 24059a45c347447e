import TextAdventure.Command.Language

/-! World files: the records in which an author declares a world, with all texts as they are written. What
    the names in them refer to is a question for later. -/

namespace TextAdventure

/-- What an action or a hook does, as an author declares it. -/
structure EffectDecl where
  say : Option String := none
  unblock : List String := []
  block : List String := []
  goTo : Option String := none
  give : List String := []
  consume : List String := []
deriving DecidableEq, Repr

/-- An action of a room or an item. -/
structure ActionDecl where
  id : Option String := none
  phrases : List String
  requires : List String := []
  missingText : Option String := none
  effect : EffectDecl := {}
deriving DecidableEq, Repr

/-- An exit as it is declared. -/
structure ExitDecl where
  direction : String
  target : String
  blocked : Bool := false
deriving DecidableEq, Repr

/-- A room as it is declared. -/
structure RoomDecl where
  id : String
  name : String
  desc : String := ""
  exits : List ExitDecl := []
  actions : List ActionDecl := []
  onEnter : List EffectDecl := []
deriving DecidableEq, Repr

/-- An item as it is declared. -/
structure ItemDecl where
  name : String
  desc : String := ""
  roomText : String := ""
  gettable : Option Bool := none
  /-- Where the item starts, "room:" with an id or "inventory". -/
  start : Option String := none
  actions : List ActionDecl := []
deriving DecidableEq, Repr

/-- What a file says of its world as a whole. -/
structure WorldHeader where
  id : String
  name : String
  startRoom : String
  prologue : String := ""
deriving DecidableEq, Repr

/-- All declarations of a file, in the order in which they are written where no other is given. -/
structure WorldFile where
  header : WorldHeader
  /-- The roots with their aliases, in ascending order of the roots. -/
  aliases : List AliasGroup := []
  junk : List String := []
  /-- The short words of directions with their full names, in ascending order of the short words. -/
  directions : List DirectionName := []
  rooms : List RoomDecl := []
  items : List ItemDecl := []
deriving DecidableEq, Repr

end TextAdventure
