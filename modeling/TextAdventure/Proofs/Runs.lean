import TextAdventure.Proofs.Words

/-! The words of a text as its maximal runs of word characters: `HasRuns` says which pieces of a text they are, and
    `hasRuns_iff` that they are the runs that reading the text finds. -/

namespace TextAdventure.Text

/-! ### Texts cut at characters of one kind -/

/-- A text without a character at which it is cut, or such a text, a cut and what follows it. -/
theorem cut_induction {p : Char → Bool} {motive : List Char → Prop}
    (whole : ∀ part, (∀ c ∈ part, p c = false) → motive part)
    (cut : ∀ part c rest, (∀ c ∈ part, p c = false) → p c = true → motive rest → motive (part ++ c :: rest))
    (cs : List Char) : motive cs := by
  suffices ∀ part, (∀ c ∈ part, p c = false) → motive (part ++ cs) from this [] (List.forall_mem_nil _)
  induction cs with
  | nil =>
    intro part uncut
    rw [List.append_nil]
    exact whole part uncut
  | cons c cs ih =>
    intro part uncut
    by_cases here : p c = true
    · exact cut part c cs uncut here (ih [] (List.forall_mem_nil _))
    · have longer : ∀ d ∈ part ++ [c], p d = false := by
        intro d member
        rcases List.mem_append.mp member with member | member
        · exact uncut d member
        · rw [List.mem_singleton.mp member]
          exact Bool.eq_false_iff.mpr here
      have := ih (part ++ [c]) longer
      rwa [List.append_assoc, List.singleton_append] at this

/-! ### Runs as parts of a text -/

/-- The text consists of these runs of word characters, which go as far as they can, in this order, and of other
    characters around and between them. -/
inductive HasRuns : List Char → List (List Char) → Prop
  | none {gap : List Char} (outside : ∀ c ∈ gap, isWordChar c = false) : HasRuns gap []
  | more {gap run rest : List Char} {runs : List (List Char)} (outside : ∀ c ∈ gap, isWordChar c = false)
      (nonempty : run ≠ []) (inside : ∀ c ∈ run, isWordChar c = true)
      (maximal : ∀ c, rest.head? = some c → isWordChar c = false) (others : HasRuns rest runs) :
      HasRuns (gap ++ run ++ rest) (run :: runs)

theorem HasRuns.cons_gap {c : Char} (outside : isWordChar c = false) {cs : List Char} {runs : List (List Char)}
    (h : HasRuns cs runs) : HasRuns (c :: cs) runs := by
  cases h with
  | none around => exact .none (List.forall_mem_cons.mpr ⟨outside, around⟩)
  | more around nonempty inside maximal others =>
    exact .more (List.forall_mem_cons.mpr ⟨outside, around⟩) nonempty inside maximal others

theorem wordRuns_append_of_outside {gap : List Char} (outside : ∀ c ∈ gap, isWordChar c = false) (cs : List Char) :
    wordRuns (gap ++ cs) = wordRuns cs := by
  induction gap with
  | nil => rfl
  | cons c gap ih =>
    obtain ⟨first, others⟩ := List.forall_mem_cons.mp outside
    rw [List.cons_append, wordRuns_cons_gap first, ih others]

theorem wordRuns_of_outside {gap : List Char} (outside : ∀ c ∈ gap, isWordChar c = false) : wordRuns gap = [] := by
  have := wordRuns_append_of_outside outside []
  rwa [List.append_nil] at this

theorem wordRuns_of_inside {run : List Char} (inside : ∀ c ∈ run, isWordChar c = true) (nonempty : run ≠ []) :
    wordRuns run = [run] := by
  rw [wordRuns, List.splitOnP_eq_singleton fun c member => by simp [inside c member]]
  simp [nonempty]

theorem hasRuns_wordRuns (cs : List Char) : HasRuns cs (wordRuns cs) := by
  -- A run that is empty stands for nothing between two characters outside words.
  induction cs using cut_induction (p := (!isWordChar ·)) with
  | whole run inside =>
    simp only [Bool.not_eq_false'] at inside
    by_cases nonempty : run = []
    · subst nonempty
      exact .none (List.forall_mem_nil _)
    · rw [wordRuns_of_inside inside nonempty]
      have := HasRuns.more (List.forall_mem_nil _) nonempty inside (by simp) (.none (List.forall_mem_nil _))
      rwa [List.nil_append, List.append_nil] at this
  | cut run c rest inside outside ih =>
    simp only [Bool.not_eq_false', Bool.not_eq_true'] at inside outside
    have later := ih.cons_gap outside
    by_cases nonempty : run = []
    · subst nonempty
      rwa [List.nil_append, wordRuns_cons_gap outside]
    · rw [wordRuns_append_gap outside, wordRuns_of_inside inside nonempty]
      refine .more (List.forall_mem_nil _) nonempty inside (fun d head => ?_) later
      rw [List.head?_cons, Option.some.injEq] at head
      exact head ▸ outside

theorem HasRuns.wordRuns_eq {cs : List Char} {runs : List (List Char)} (h : HasRuns cs runs) : wordRuns cs = runs := by
  induction h with
  | none outside => exact wordRuns_of_outside outside
  | @more gap run rest runs outside nonempty inside maximal _ ih =>
    rw [List.append_assoc, wordRuns_append_of_outside outside]
    cases rest with
    | nil =>
      rw [List.append_nil, wordRuns_of_inside inside nonempty, ← ih]
      rfl
    | cons c rest =>
      have ends : isWordChar c = false := maximal c rfl
      rw [wordRuns_append_gap ends, wordRuns_of_inside inside nonempty, ← ih, wordRuns_cons_gap ends]
      rfl

/-- The runs that reading a text finds are its maximal runs. -/
theorem hasRuns_iff {cs : List Char} {runs : List (List Char)} : HasRuns cs runs ↔ wordRuns cs = runs :=
  ⟨HasRuns.wordRuns_eq, fun same => same ▸ hasRuns_wordRuns cs⟩

/-- These are the words of the text in order: its maximal runs of word characters. -/
def HasWords (s : String) (ws : List String) : Prop := HasRuns s.toList (ws.map String.toList)

theorem hasWords_iff {s : String} {ws : List String} : HasWords s ws ↔ words s = ws := by
  have same : words s = (wordRuns s.toList).map String.ofList := rfl
  rw [HasWords, hasRuns_iff, same]
  constructor
  · intro runs
    simp [runs]
  · rintro rfl
    simp

end TextAdventure.Text
