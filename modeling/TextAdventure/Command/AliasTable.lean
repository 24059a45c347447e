import TextAdventure.Catalog
import TextAdventure.Text.Lowercase
import TextAdventure.Text.Word

/-! Aliases: words of the player that stand for other words. Authors write them in groups, a root with
    its aliases. The table is flat: a root is not looked up again. -/

namespace TextAdventure
open Text

/-- A root with the aliases that stand for it, as an author writes them. -/
structure AliasGroup where
  root : String
  aliases : List String
deriving DecidableEq, Repr

/-- One word and the text that it stands for. -/
structure Alias where
  word : String
  root : String
deriving DecidableEq, Repr

/-- The aliases of a group that are single words, folded like the player's input. -/
def AliasGroup.entries (group : AliasGroup) : List Alias :=
  ((group.aliases.map fold).filter isWord).map fun word => ⟨word, fold group.root⟩

/-- At most one root for each word. -/
structure AliasTable where
  entries : Catalog Alias.word

namespace AliasTable

/-- The table without aliases. -/
def empty : AliasTable := ⟨Catalog.empty⟩

instance : Inhabited AliasTable := ⟨empty⟩

/-- The table with the aliases of `groups`; a word that is bound again takes its last root. -/
def merge (table : AliasTable) (groups : List AliasGroup) : AliasTable :=
  ⟨table.entries.insertAll (groups.flatMap AliasGroup.entries)⟩

/-- The aliases of a language and those of a world, which win over the language's. -/
def ofGroups (language world : List AliasGroup) : AliasTable := (empty.merge language).merge world

/-- The root of a word. -/
def get? (table : AliasTable) (word : String) : Option String := (table.entries.get? word).map Alias.root

/-- The word is an alias. -/
def contains (table : AliasTable) (word : String) : Bool := table.entries.contains word

/-- The root of an alias; any other word itself. -/
def resolve (table : AliasTable) (word : String) : String := (table.get? word).getD word

/-- The aliases that satisfy `p`. -/
def filter (table : AliasTable) (p : Alias → Bool) : AliasTable := ⟨table.entries.filter p⟩

/-- The number of aliases. -/
def size (table : AliasTable) : Nat := table.entries.size

/-- The table has no alias. -/
def isEmpty (table : AliasTable) : Bool := table.entries.isEmpty

/-! ### Look-ups -/

theorem contains_eq_isSome_get? (table : AliasTable) (word : String) :
    table.contains word = (table.get? word).isSome := by
  simp [contains, get?, Catalog.contains]

theorem get?_filter (table : AliasTable) (p : Alias → Bool) (word : String) :
    (table.filter p).get? word = ((table.entries.get? word).filter p).map Alias.root := by
  simp [filter, get?, Catalog.get?_filter]

end AliasTable
end TextAdventure
