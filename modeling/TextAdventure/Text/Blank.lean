import TextAdventure.Text.Property.Blank

/-! Blank characters and the trimming of text. Blank means White_Space, so no-break spaces and the
    line separators count, zero-width characters do not. -/

namespace TextAdventure.Text

/-- The character is White_Space. -/
def isBlank (c : Char) : Bool := covered blankRanges c.toNat

/-- The characters without the blank ones at either end. -/
def trimChars (cs : List Char) : List Char :=
  ((cs.dropWhile isBlank).reverse.dropWhile isBlank).reverse

/-- The text without the blank characters at either end. -/
def trim (s : String) : String := String.ofList (trimChars s.toList)

/-- The text has no character that is not blank. -/
def allBlank (s : String) : Bool := s.toList.all isBlank

/-! ### What trimming leaves -/

theorem dropWhile_eq_nil_iff_all {p : Char → Bool} {cs : List Char} :
    cs.dropWhile p = [] ↔ cs.all p = true := by
  induction cs with
  | nil => simp
  | cons c cs ih => by_cases h : p c <;> simp [h, ih]

theorem toList_trim (s : String) : (trim s).toList = trimChars s.toList := by
  simp [trim]

/-- Only blank characters are trimmed away entirely. -/
theorem trimChars_eq_nil_iff {cs : List Char} : trimChars cs = [] ↔ cs.all isBlank = true := by
  constructor
  · intro h
    rw [trimChars, List.reverse_eq_nil_iff, dropWhile_eq_nil_iff_all, List.all_reverse] at h
    by_cases hd : cs.dropWhile isBlank = []
    · exact dropWhile_eq_nil_iff_all.mp hd
    · have hhead := List.head_dropWhile_not isBlank hd
      have := List.all_eq_true.mp h _ (List.head_mem hd)
      simp [hhead] at this
  · intro h
    rw [trimChars, dropWhile_eq_nil_iff_all.mpr h]
    rfl

end TextAdventure.Text
