import TextAdventure.Command.AliasTable

/-! The normal form of commands. A command is folded, its words are separated by single spaces, junk
    words are dropped and aliases are replaced by their roots. Phrases of actions take the same way,
    so commands and phrases compare as texts. -/

namespace TextAdventure
open Text

/-- The junk words and the aliases that normal forms are made with. -/
structure Normalizer where
  junk : List String
  aliases : AliasTable

namespace Normalizer

/-- No word of `root` is junk or itself an alias, so where `root` takes an alias's place nothing is left
    to drop or replace. -/
def isStable (junk : List String) (table : AliasTable) (root : String) : Bool :=
  (words root).all fun word => !junk.contains word && !table.contains word

/-- The normalizer of some junk words and an alias table. Blank junk words are ignored, and an alias
    is kept only if its root is stable under the whole table. -/
def ofTables (junk : List String) (table : AliasTable) : Normalizer :=
  let junk := (junk.map fold).filter (· != "")
  ⟨junk, table.filter fun a => isStable junk table a.root⟩

/-- The token is a junk word. -/
def isJunk (n : Normalizer) (token : String) : Bool := n.junk.contains token

/-- The text without its junk words. -/
def dropJunk (n : Normalizer) (s : String) : String :=
  joinSpaces ((splitSpaces s).filter fun token => !n.isJunk token)

/-- The text with each alias replaced by its root. -/
def resolveAliases (n : Normalizer) (s : String) : String :=
  joinSpaces ((splitSpaces s).map n.aliases.resolve)

/-- The normal form of a command or phrase. -/
def normalize (n : Normalizer) (raw : String) : String :=
  collapse (n.resolveAliases (collapse (n.dropJunk (collapse (fold raw)))))

end Normalizer
end TextAdventure
