import TextAdventure.Command.AliasTable

/-! The tables of a language: junk words, aliases and the names of directions. -/

namespace TextAdventure

/-- A short word for a direction and its full name. -/
structure DirectionName where
  short : String
  full : String
deriving DecidableEq, Repr

/-- The full names of directions, by their short words. -/
structure Directions where
  names : Catalog DirectionName.short

namespace Directions

/-- The table without directions. -/
def empty : Directions := ⟨Catalog.empty⟩

instance : Inhabited Directions := ⟨empty⟩

/-- The table with `name`, instead of what its short word meant before. -/
def insert (d : Directions) (name : DirectionName) : Directions := ⟨d.names.insert name⟩

/-- The table with all of `names`; of two for one short word the last counts. -/
def insertAll (d : Directions) (names : List DirectionName) : Directions := names.foldl insert d

/-- The full name of a short word. -/
def fullName? (d : Directions) (short : String) : Option String := (d.names.get? short).map DirectionName.full

/-- The directions of English. -/
def english : Directions :=
  empty.insertAll [⟨"n", "north"⟩, ⟨"s", "south"⟩, ⟨"e", "east"⟩, ⟨"w", "west"⟩, ⟨"ne", "northeast"⟩,
    ⟨"nw", "northwest"⟩, ⟨"se", "southeast"⟩, ⟨"sw", "southwest"⟩, ⟨"u", "up"⟩, ⟨"d", "down"⟩]

end Directions

/-- What a session knows of the language its player writes. -/
structure Language where
  junk : List String
  directions : Directions
  aliases : List AliasGroup

/-- English. The alias without a root deletes its words, so "go north" is "north". No root is an alias
    or a junk word. -/
def Language.english : Language where
  junk := ["the", "a", "an", "at", "to", "some", "please"]
  directions := .english
  aliases := [⟨"", ["go", "walk", "run"]⟩, ⟨"take", ["get", "grab"]⟩, ⟨"drop", ["discard", "toss"]⟩,
    ⟨"inventory", ["inv"]⟩, ⟨"look", ["l"]⟩, ⟨"examine", ["x", "inspect"]⟩]

end TextAdventure
