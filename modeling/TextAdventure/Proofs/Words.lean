import TextAdventure.Text.Word

/-! Words of a text and words in a row. A character outside words cuts the words of a text in two
    (`words_ofList_append_gap`); from this the words of joined tokens follow, and that collapsing a text
    joins its words by single spaces (`collapse_eq_joinSpaces_words`). -/

namespace TextAdventure.Text

/-! ### Blank characters stand outside words -/

theorem not_isWordChar_of_isBlank {c : Char} (h : isBlank c = true) : isWordChar c = false :=
  not_covered_of_apart (by decide +kernel : apart blankRanges wordRanges = true) h

theorem not_isBlank_of_isWordChar {c : Char} (h : isWordChar c = true) : isBlank c = false := by
  rw [Bool.eq_false_iff]
  intro hb
  simp [not_isWordChar_of_isBlank hb] at h

theorem isBlank_space : isBlank ' ' = true := by decide

theorem not_isWordChar_space : isWordChar ' ' = false := not_isWordChar_of_isBlank isBlank_space

theorem isWord_iff {s : String} : isWord s = true ↔ s.toList ≠ [] ∧ ∀ c ∈ s.toList, isWordChar c = true := by
  simp [isWord]

theorem isWord_ofList_iff {cs : List Char} :
    isWord (.ofList cs) = true ↔ cs ≠ [] ∧ ∀ c ∈ cs, isWordChar c = true := by
  rw [isWord_iff, String.toList_ofList]

theorem space_not_mem_of_isWord {s : String} (h : isWord s = true) : ' ' ∉ s.toList := by
  intro hs
  have := (isWord_iff.mp h).2 ' ' hs
  simp [not_isWordChar_space] at this

/-! ### Runs of word characters -/

/-- The maximal runs of word characters among `cs`. -/
def wordRuns (cs : List Char) : List (List Char) := (cs.splitOnP (!isWordChar ·)).filter (!·.isEmpty)

theorem wordRuns_append_gap {c : Char} (h : isWordChar c = false) (xs ys : List Char) :
    wordRuns (xs ++ c :: ys) = wordRuns xs ++ wordRuns ys := by
  rw [wordRuns, List.splitOnP_append_cons xs ys (by simpa using h), List.filter_append]
  rfl

theorem wordRuns_cons_gap {c : Char} (h : isWordChar c = false) (cs : List Char) :
    wordRuns (c :: cs) = wordRuns cs := by
  simpa [wordRuns] using wordRuns_append_gap h [] cs

/-- No part of a split text has a character at which the text was split. -/
theorem not_of_mem_splitOnP {p : Char → Bool} :
    ∀ {cs part : List Char}, part ∈ cs.splitOnP p → ∀ c ∈ part, p c = false ∧ c ∈ cs
  | [], part, h => by
    obtain rfl : part = [] := by simpa using h
    simp
  | c :: cs, part, h => by
    rw [List.splitOnP_cons_eq_if_modifyHead] at h
    split at h
    · rcases List.mem_cons.mp h with rfl | h
      · simp
      · exact fun d hd => ⟨(not_of_mem_splitOnP h d hd).1, List.mem_cons_of_mem _ (not_of_mem_splitOnP h d hd).2⟩
    · next hc =>
      obtain ⟨first, rest, hsplit⟩ := List.exists_cons_of_ne_nil (List.splitOnP_ne_nil p cs)
      have ih : ∀ part ∈ first :: rest, ∀ d ∈ part, p d = false ∧ d ∈ cs := fun part hpart =>
        not_of_mem_splitOnP (hsplit ▸ hpart)
      rw [hsplit, List.modifyHead_cons] at h
      intro d hd
      rcases List.mem_cons.mp h with rfl | h
      · rcases List.mem_cons.mp hd with rfl | hd
        · exact ⟨by simpa using hc, by simp⟩
        · exact ⟨(ih first (by simp) d hd).1, List.mem_cons_of_mem _ (ih first (by simp) d hd).2⟩
      · exact ⟨(ih part (by simp [h]) d hd).1, List.mem_cons_of_mem _ (ih part (by simp [h]) d hd).2⟩

theorem mem_wordRuns {cs run : List Char} (h : run ∈ wordRuns cs) :
    run ≠ [] ∧ ∀ c ∈ run, isWordChar c = true ∧ c ∈ cs := by
  obtain ⟨hpart, hne⟩ := List.mem_filter.mp h
  exact ⟨by simpa using hne, fun c hc => by simpa using not_of_mem_splitOnP hpart c hc⟩

theorem isWord_of_mem_wordRuns {cs run : List Char} (h : run ∈ wordRuns cs) : isWord (.ofList run) = true :=
  isWord_ofList_iff.mpr ⟨(mem_wordRuns h).1, fun c hc => ((mem_wordRuns h).2 c hc).1⟩

/-! ### The words of a text -/

theorem words_ofList (cs : List Char) : words (.ofList cs) = (wordRuns cs).map String.ofList := by
  rw [words, String.toList_ofList, wordRuns]

theorem words_empty : words "" = [] := by simp [words]

/-- A character outside words cuts the words in two. -/
theorem words_ofList_append_gap {c : Char} (h : isWordChar c = false) (xs ys : List Char) :
    words (.ofList (xs ++ c :: ys)) = words (.ofList xs) ++ words (.ofList ys) := by
  simp only [words_ofList, wordRuns_append_gap h, List.map_append]

theorem words_append_space (s t : String) : words (s ++ " " ++ t) = words s ++ words t := by
  have h := words_ofList_append_gap not_isWordChar_space s.toList t.toList
  have hs : String.ofList (s.toList ++ ' ' :: t.toList) = s ++ " " ++ t := by
    rw [← String.toList_inj]
    simp
  rwa [hs, String.ofList_toList, String.ofList_toList] at h

/-- A word has no other word than itself. -/
theorem words_of_isWord {s : String} (h : isWord s = true) : words s = [s] := by
  obtain ⟨hne, hall⟩ := isWord_iff.mp h
  rw [words, List.splitOnP_eq_singleton fun c hc => by simpa using hall c hc]
  simp [hne]

theorem mem_words {s w : String} (h : w ∈ words s) : isWord w = true ∧ ∀ c ∈ w.toList, c ∈ s.toList := by
  obtain ⟨run, hrun, rfl⟩ := List.mem_map.mp h
  obtain ⟨hne, hall⟩ := mem_wordRuns hrun
  rw [isWord_ofList_iff, String.toList_ofList]
  exact ⟨⟨hne, fun c hc => (hall c hc).1⟩, fun c hc => (hall c hc).2⟩

/-! ### Tokens in a row -/

theorem joinSpaces_cons {t : String} {ts : List String} (h : ts ≠ []) :
    joinSpaces (t :: ts) = t ++ " " ++ joinSpaces ts := String.intercalate_cons_of_ne_nil h

/-- The words of tokens in a row are those of each token in turn. -/
theorem words_joinSpaces (ts : List String) : words (joinSpaces ts) = ts.flatMap words := by
  induction ts with
  | nil => exact words_empty
  | cons t ts ih =>
    by_cases hts : ts = []
    · simp [hts, joinSpaces]
    · rw [joinSpaces_cons hts, words_append_space, ih, List.flatMap_cons]

/-- Words in a row are read back one by one. -/
theorem words_joinSpaces_of_isWord {ts : List String} (h : ∀ t ∈ ts, isWord t = true) :
    words (joinSpaces ts) = ts := by
  rw [words_joinSpaces]
  induction ts with
  | nil => rfl
  | cons t ts ih =>
    rw [List.flatMap_cons, words_of_isWord (h t (by simp)), ih fun t ht => h t (by simp [ht])]
    rfl

theorem splitSpaces_joinSpaces {ts : List String} (h : ∀ t ∈ ts, isWord t = true) (hne : ts ≠ []) :
    splitSpaces (joinSpaces ts) = ts := by
  have hsplit : (joinSpaces ts).toList.splitOn ' ' = ts.map String.toList := by
    rw [joinSpaces, String.toList_intercalate]
    refine List.splitOn_intercalate ' ' (fun cs hcs => ?_) (by simpa using hne)
    obtain ⟨t, ht, rfl⟩ := List.mem_map.mp hcs
    exact space_not_mem_of_isWord (h t ht)
  simp [splitSpaces, hsplit]

theorem splitSpaces_joinSpaces_nil : splitSpaces (joinSpaces []) = [""] := by simp [splitSpaces, joinSpaces]

/-- A row of tokens cut at its first space is its first token and the row of the others. -/
theorem cutAtSpace_joinSpaces {t : String} {ts : List String} (h : isWord t = true) :
    cutAtSpace (joinSpaces (t :: ts)) = (t, joinSpaces ts) := by
  have hall : ∀ c ∈ t.toList, (c != ' ') = true := fun c hc => by
    simpa using ne_of_mem_of_not_mem hc (space_not_mem_of_isWord h)
  have htake (rest) : (t.toList ++ rest).takeWhile (· != ' ') = t.toList ++ rest.takeWhile (· != ' ') :=
    List.takeWhile_append_of_pos hall
  have hdrop (rest) : (t.toList ++ rest).dropWhile (· != ' ') = rest.dropWhile (· != ' ') :=
    List.dropWhile_append_of_pos hall
  by_cases hts : ts = []
  · have h₁ := htake []
    have h₂ := hdrop []
    rw [List.append_nil] at h₁ h₂
    simp [hts, cutAtSpace, joinSpaces, h₁, h₂]
  · simp only [cutAtSpace, joinSpaces_cons hts, String.toList_append, List.append_assoc, htake, hdrop]
    simp

/-! ### Collapsing a text -/

/-- The word runs of `cs` with a space between two of them. -/
def joinRuns (cs : List Char) : List Char := [' '].intercalate (wordRuns cs)

theorem wordRuns_singleton {c : Char} (h : isWordChar c = true) : wordRuns [c] = [[c]] := by
  simp [wordRuns, List.splitOnP_cons_eq_if_modifyHead, h]

/-- A word character before another one joins its run. -/
theorem exists_wordRuns_cons_cons {c d : Char} (hc : isWordChar c = true) (hd : isWordChar d = true)
    (cs : List Char) :
    ∃ run rest, wordRuns (d :: cs) = (d :: run) :: rest ∧ wordRuns (c :: d :: cs) = (c :: d :: run) :: rest := by
  obtain ⟨run, rest, hsplit⟩ := List.exists_cons_of_ne_nil (List.splitOnP_ne_nil (!isWordChar ·) cs)
  exact ⟨run, rest.filter (!·.isEmpty), by simp [wordRuns, List.splitOnP_cons_eq_if_modifyHead, hc, hd, hsplit]⟩

theorem wordRuns_cons_ne_nil {c : Char} (h : isWordChar c = true) (cs : List Char) : wordRuns (c :: cs) ≠ [] := by
  cases cs with
  | nil => simp [wordRuns_singleton h]
  | cons d cs =>
    by_cases hd : isWordChar d = true
    · obtain ⟨run, rest, -, hruns⟩ := exists_wordRuns_cons_cons h hd cs
      simp [hruns]
    · rw [Bool.not_eq_true] at hd
      rw [← List.singleton_append, wordRuns_append_gap hd, wordRuns_singleton h]
      simp

/-- What follows a gap in a text with single spaces: the runs of the text, and perhaps a space for a last
    gap. After a word character the same holds from this character on. -/
theorem spaceGaps_eq_joinRuns (cs : List Char) :
    (∃ after, spaceGaps true cs = joinRuns cs ++ after ∧ (∀ c ∈ after, isBlank c = true) ∧
        (wordRuns cs = [] → after = [])) ∧
      ∀ c, isWordChar c = true →
        ∃ after, c :: spaceGaps false cs = joinRuns (c :: cs) ++ after ∧ ∀ d ∈ after, isBlank d = true := by
  induction cs with
  | nil =>
    refine ⟨⟨[], by simp [spaceGaps, joinRuns, wordRuns]⟩, fun c hc => ⟨[], ?_⟩⟩
    simp [spaceGaps, joinRuns, wordRuns_singleton hc]
  | cons d cs ih =>
    obtain ⟨⟨after, heq, hafter, hnil⟩, ihword⟩ := ih
    by_cases hd : isWordChar d = true
    · obtain ⟨after, heq, hafter⟩ := ihword d hd
      have hgaps (inGap) : spaceGaps inGap (d :: cs) = d :: spaceGaps false cs := by simp [spaceGaps, hd]
      refine ⟨⟨after, by rw [hgaps, heq], hafter, fun h => absurd h (wordRuns_cons_ne_nil hd cs)⟩, fun c hc => ?_⟩
      obtain ⟨run, rest, hd', hcd⟩ := exists_wordRuns_cons_cons hc hd cs
      refine ⟨after, ?_, hafter⟩
      rw [hgaps, heq, joinRuns, joinRuns, hd', hcd, ← List.cons_append, ← List.intercalate_cons_cons_left]
    · rw [Bool.not_eq_true] at hd
      have htrue : spaceGaps true (d :: cs) = spaceGaps true cs := by simp [spaceGaps, hd]
      have hfalse : spaceGaps false (d :: cs) = ' ' :: spaceGaps true cs := by simp [spaceGaps, hd]
      refine ⟨⟨after, ?_, hafter, ?_⟩, fun c hc => ?_⟩
      · rw [htrue, heq, joinRuns, joinRuns, wordRuns_cons_gap hd]
      · rwa [wordRuns_cons_gap hd]
      · have hruns : wordRuns (c :: d :: cs) = [c] :: wordRuns cs := by
          rw [← List.singleton_append, wordRuns_append_gap hd, wordRuns_singleton hc, List.singleton_append]
        rw [hfalse, heq, joinRuns, joinRuns, hruns]
        by_cases hcs : wordRuns cs = []
        · exact ⟨[' '], by simp [hcs, hnil hcs, isBlank_space]⟩
        · exact ⟨after, by simp [List.intercalate_cons_of_ne_nil hcs], hafter⟩

/-- Runs in a row begin and end with a word character. -/
theorem isWordChar_of_head?_intercalate {runs : List (List Char)}
    (h : ∀ run ∈ runs, isWord (.ofList run) = true) {c : Char}
    (hc : ([' '].intercalate runs).head? = some c) : isWordChar c = true := by
  cases runs with
  | nil => simp at hc
  | cons run rest =>
    obtain ⟨hne, hall⟩ := isWord_ofList_iff.mp (h run (by simp))
    obtain ⟨d, run, rfl⟩ := List.exists_cons_of_ne_nil hne
    rw [List.intercalate_cons_cons_left, List.head?_cons, Option.some.injEq] at hc
    exact hall c (by simp [hc])

theorem isWordChar_of_getLast?_intercalate {runs : List (List Char)}
    (h : ∀ run ∈ runs, isWord (.ofList run) = true) {c : Char}
    (hc : ([' '].intercalate runs).getLast? = some c) : isWordChar c = true := by
  induction runs with
  | nil => simp at hc
  | cons run rest ih =>
    cases rest with
    | nil =>
      rw [List.intercalate_singleton] at hc
      exact (isWord_ofList_iff.mp (h run (by simp))).2 c (List.mem_of_getLast? hc)
    | cons next rest =>
      rw [List.intercalate_cons_cons, List.getLast?_append] at hc
      cases hlast : ([' '].intercalate (next :: rest)).getLast? with
      | some d =>
        rw [hlast, Option.some_or] at hc
        exact ih (fun run hrun => h run (by simp [hrun])) (hlast.trans hc)
      | none =>
        obtain ⟨d, cs, rfl⟩ := List.exists_cons_of_ne_nil (isWord_ofList_iff.mp (h next (by simp))).1
        simp [List.intercalate_cons_cons_left] at hlast

/-- Blank characters before a text that does not begin with one are dropped. -/
theorem dropWhile_isBlank_append {before cs : List Char} (hbefore : ∀ c ∈ before, isBlank c = true)
    (hhead : ∀ c, cs.head? = some c → isBlank c = false) (after : List Char) (hne : cs ≠ []) :
    (before ++ (cs ++ after)).dropWhile isBlank = cs ++ after := by
  obtain ⟨c, cs, rfl⟩ := List.exists_cons_of_ne_nil hne
  rw [List.dropWhile_append_of_pos hbefore, List.cons_append, List.dropWhile_cons_of_neg (by simp [hhead c rfl])]

/-- Blank characters around a text that has none at its ends are what trimming removes. -/
theorem trimChars_append {before cs after : List Char} (hbefore : ∀ c ∈ before, isBlank c = true)
    (hafter : ∀ c ∈ after, isBlank c = true) (hhead : ∀ c, cs.head? = some c → isBlank c = false)
    (hlast : ∀ c, cs.getLast? = some c → isBlank c = false) : trimChars (before ++ (cs ++ after)) = cs := by
  by_cases hne : cs = []
  · subst hne
    rw [trimChars_eq_nil_iff, List.all_eq_true]
    intro c hc
    rcases List.mem_append.mp hc with hc | hc
    · exact hbefore c hc
    · exact hafter c (by simpa using hc)
  · have hrev : (cs ++ after).reverse = after.reverse ++ (cs.reverse ++ []) := by simp
    rw [trimChars, dropWhile_isBlank_append hbefore hhead after hne, hrev,
      dropWhile_isBlank_append (by simpa using hafter) (by simpa using hlast) [] (by simpa using hne)]
    simp

theorem trimChars_joinRuns (cs : List Char) {before after : List Char}
    (hbefore : ∀ c ∈ before, isBlank c = true) (hafter : ∀ c ∈ after, isBlank c = true) :
    trimChars (before ++ (joinRuns cs ++ after)) = joinRuns cs := by
  have hword : ∀ run ∈ wordRuns cs, isWord (.ofList run) = true := fun _ => isWord_of_mem_wordRuns
  exact trimChars_append hbefore hafter
    (fun _ hc => not_isBlank_of_isWordChar (isWordChar_of_head?_intercalate hword hc))
    (fun _ hc => not_isBlank_of_isWordChar (isWordChar_of_getLast?_intercalate hword hc))

theorem trimChars_spaceGaps (cs : List Char) : trimChars (spaceGaps false cs) = joinRuns cs := by
  cases cs with
  | nil => rfl
  | cons c cs =>
    by_cases hc : isWordChar c = true
    · obtain ⟨after, heq, hafter⟩ := (spaceGaps_eq_joinRuns cs).2 c hc
      rw [spaceGaps, if_pos hc, heq]
      exact trimChars_joinRuns (c :: cs) (List.forall_mem_nil _) hafter
    · obtain ⟨after, heq, hafter, -⟩ := (spaceGaps_eq_joinRuns cs).1
      have hruns : joinRuns (c :: cs) = joinRuns cs := by
        rw [joinRuns, wordRuns_cons_gap (by simpa using hc), joinRuns]
      rw [spaceGaps, if_neg hc, if_neg Bool.false_ne_true, heq, hruns]
      exact trimChars_joinRuns cs (List.forall_mem_singleton.mpr isBlank_space) hafter

/-- Collapsing a text puts its words in a row. -/
theorem collapse_eq_joinSpaces_words (s : String) : collapse s = joinSpaces (words s) := by
  have hruns : (words s).map String.toList = wordRuns s.toList := by
    simp [words, wordRuns, List.map_map, Function.comp_def]
  rw [← String.toList_inj, collapse, String.toList_ofList, trimChars_spaceGaps, joinSpaces,
    String.toList_intercalate, hruns]
  rfl

theorem words_collapse (s : String) : words (collapse s) = words s := by
  rw [collapse_eq_joinSpaces_words, words_joinSpaces_of_isWord fun w hw => (mem_words hw).1]

/-! ### A verb and what follows -/

/-- A text of words in a row that starts with a verb has the words of the rest after it, and there is a rest. -/
theorem words_verb {verb name : String} (word : isWord verb = true)
    (row : joinSpaces (words (verb ++ " " ++ name)) = verb ++ " " ++ name) :
    words (verb ++ " " ++ name) = verb :: words name ∧ joinSpaces (words name) = name ∧ name ≠ "" := by
  have split : words (verb ++ " " ++ name) = verb :: words name := by
    rw [words_append_space, words_of_isWord word, List.singleton_append]
  rw [split] at row
  by_cases none : words name = []
  · -- Then the text ends in a space, and no words in a row do.
    rw [none, ← String.toList_inj] at row
    simp [joinSpaces] at row
  · rw [joinSpaces_cons none, String.append_right_inj] at row
    refine ⟨split, row, ?_⟩
    rintro rfl
    exact none words_empty

theorem eq_verb_append {s verb : String} (row : joinSpaces (words s) = s) (first : (words s).head? = some verb)
    (rest : joinSpaces (words s).tail ≠ "") : s = verb ++ " " ++ joinSpaces (words s).tail := by
  cases split : words s with
  | nil => simp [split] at first
  | cons v ws =>
    rw [split, List.head?_cons, Option.some.injEq] at first
    rw [split, List.tail_cons] at rest
    have more : ws ≠ [] := by
      rintro rfl
      exact rest rfl
    rw [split, joinSpaces_cons more, first] at row
    exact row.symm

end TextAdventure.Text
