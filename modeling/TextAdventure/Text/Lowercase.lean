import TextAdventure.Text.Property.Lowercase
import TextAdventure.Text.Property.Cased
import TextAdventure.Text.Property.CaseIgnorable
import TextAdventure.Text.Blank

/-! Lowercase text by the full mapping of Unicode. Two capitals are more than a look-up: the dotted
    capital I becomes two characters, and a capital sigma that ends a word becomes the final small
    sigma. -/

namespace TextAdventure.Text

/-- The run of capitals, of some in ascending order, that covers a code point. -/
def runOf? (n : Nat) : List CapitalRun → Option CapitalRun
  | [] => none
  | run :: runs => if n < run.first then none else if run.covers n then some run else runOf? n runs

/-- The small letter of a code point, itself where it is no capital. -/
def smallLetter (n : Nat) : Nat :=
  match runOf? n capitalRuns with
  | some run => run.smallLetter n
  | none => n

/-- The lowercase of a character that stands alone. -/
def lowercaseChar (c : Char) : List Char :=
  if c = 'İ' then ['i', '\u0307'] else [Char.ofNat (smallLetter c.toNat)]

/-- The next letter of `cs` is cased, characters without weight in questions of case passed over. -/
def meetsCased (cs : List Char) : Bool :=
  match cs.dropWhile fun c => covered caseIgnorableRanges c.toNat with
  | [] => false
  | c :: _ => covered casedRanges c.toNat

/-- The small letter of a capital sigma between `before`, nearest character first, and `after`: final
    where a word ends, that is after a cased letter and not before one. -/
def smallSigma (before after : List Char) : Char :=
  if meetsCased before && !meetsCased after then 'ς' else 'σ'

/-- The lowercase of the characters that follow `before`, nearest character first. -/
def lowercaseAfter (before : List Char) : List Char → List Char
  | [] => []
  | c :: rest =>
    (if c = 'Σ' then [smallSigma before rest] else lowercaseChar c) ++ lowercaseAfter (c :: before) rest

/-- The lowercase of a row of characters. -/
def lowercaseChars (cs : List Char) : List Char := lowercaseAfter [] cs

/-- The text in lowercase. -/
def lowercase (s : String) : String := String.ofList (lowercaseChars s.toList)

/-- The form in which names and other words of the player's language are kept: trimmed, in lowercase. -/
def fold (s : String) : String := lowercase (trim s)

/-- The two texts differ at most in the case of the letters A to Z. -/
def equalUpToAsciiCase (s t : String) : Bool :=
  s.toList.map Char.toLower == t.toList.map Char.toLower

theorem toList_lowercase (s : String) : (lowercase s).toList = lowercaseChars s.toList := by
  simp [lowercase]

end TextAdventure.Text
