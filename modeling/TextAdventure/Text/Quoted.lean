import TextAdventure.Text.Property.GraphemeExtend
import TextAdventure.Text.Property.Unprintable

/-! Text in quotes, for messages that must show every character: quotes, backslashes and common
    controls are escaped by a letter, and whatever would be invisible or attach to its neighbour by
    its code point. -/

namespace TextAdventure.Text

/-- A code point in small hexadecimal digits, none of them a leading zero. -/
def hexDigits (n : Nat) : List Char := Nat.toDigits 16 n

/-- The character is shown by its code point: it attaches to the one before it or has no glyph. -/
def isUnshowable (c : Char) : Bool :=
  covered graphemeExtendRanges c.toNat || covered unprintableRanges c.toNat

/-- A character as it is written between quotes. -/
def quoteChar (c : Char) : List Char :=
  match c with
  | '\x00' => ['\\', '0']
  | '\t' => ['\\', 't']
  | '\n' => ['\\', 'n']
  | '\r' => ['\\', 'r']
  | '"' => ['\\', '"']
  | '\\' => ['\\', '\\']
  | c => if isUnshowable c then ['\\', 'u', '\x7b'] ++ hexDigits c.toNat ++ ['\x7d'] else [c]

/-- The text between quotes. -/
def quote (s : String) : String := String.ofList ('"' :: s.toList.flatMap quoteChar ++ ['"'])

end TextAdventure.Text
