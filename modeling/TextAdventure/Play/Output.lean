import TextAdventure.Text.Blank

/-! What the player is shown. Output only grows, with one exception: a new line of exits takes away the
    old one. Blank texts are never shown. -/

namespace TextAdventure
open Text

/-- One piece of text, tagged with how a front end should style it. -/
inductive Block where
  | title (text : String)
  | text (text : String)
  | exits (text : String)
deriving DecidableEq, Repr

/-- The plain text of a block. -/
def Block.line : Block → String
  | .title s | .text s | .exits s => s

/-- The block is a line of exits. -/
def Block.isExits : Block → Bool
  | .exits _ => true
  | _ => false

/-- The blocks shown so far, in order. -/
structure Output where
  blocks : List Block := []
deriving DecidableEq, Repr

namespace Output

/-- The output with a title, unless it is blank. -/
def title (o : Output) (text : String) : Output :=
  if allBlank text then o else ⟨o.blocks ++ [.title text]⟩

/-- The output with a narrated text, unless it is blank. -/
def say (o : Output) (text : String) : Output :=
  if allBlank text then o else ⟨o.blocks ++ [.text text]⟩

/-- The output with this line of exits as its only one, after the text it belongs to. A blank line
    changes nothing. -/
def setExits (o : Output) (text : String) : Output :=
  if allBlank text then o else ⟨o.blocks.filter (!·.isExits) ++ [.exits text]⟩

/-- The plain texts of the blocks. -/
def lines (o : Output) : List String := o.blocks.map Block.line

/-- A block has exactly this text. -/
def contains (o : Output) (text : String) : Bool := o.lines.contains text

/-- Nothing is shown. -/
def isEmpty (o : Output) : Bool := o.blocks.isEmpty

theorem blocks_say {o : Output} {text : String} (visible : allBlank text = false) :
    (o.say text).blocks = o.blocks ++ [.text text] := by
  rw [say, if_neg (by simp [visible])]

end Output
end TextAdventure
