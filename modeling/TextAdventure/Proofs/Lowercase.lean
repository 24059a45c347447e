import TextAdventure.Text.Lowercase
import TextAdventure.Proofs.Words

/-! What lowercasing leaves and what it depends on. A small letter stays as it is wherever it stands
    (`isSmall_of_mem_lowercaseChars`), so lowercasing twice is lowercasing once. Blank characters end the
    surroundings of a capital sigma, so a text may be lowercased in parts between them
    (`lowercaseChars_append_blank`). -/

namespace TextAdventure.Text

/-! ### Small letters of the table -/

/-- No small letter of `run` is a capital of `other`: they lie apart, or keep to positions of different
    parity. -/
def CapitalRun.misses (run other : CapitalRun) : Bool :=
  run.lower + (run.last - run.first) < other.first || other.last < run.lower ||
    (other.stride == 2 && (run.stride == 2 || run.first == run.last) && (run.lower + other.first) % 2 == 1)

theorem CapitalRun.covers_iff {run : CapitalRun} {n : Nat} :
    run.covers n = true ↔ run.first ≤ n ∧ n ≤ run.last ∧ (n - run.first) % run.stride = 0 := by
  simp [covers, and_assoc]

theorem CapitalRun.not_covers_smallLetter {run other : CapitalRun} {n : Nat} (h : run.misses other = true)
    (hn : run.covers n = true) : other.covers (run.smallLetter n) = false := by
  rw [Bool.eq_false_iff]
  intro hm
  obtain ⟨hfirst, hlast, hstride⟩ := covers_iff.mp hn
  obtain ⟨hfirst', hlast', hstride'⟩ := covers_iff.mp hm
  simp only [CapitalRun.smallLetter] at hfirst' hlast' hstride'
  simp only [misses, Bool.or_eq_true, Bool.and_eq_true, decide_eq_true_eq, beq_iff_eq] at h
  rcases h with (h | h) | ⟨⟨h, h' | h'⟩, hparity⟩
  · omega
  · omega
  · rw [h] at hstride'
    rw [h'] at hstride
    omega
  · rw [h] at hstride'
    omega

theorem misses_of_mem {run other : CapitalRun} (h : run ∈ capitalRuns) (h' : other ∈ capitalRuns) :
    run.misses other = true := by
  have hall : (capitalRuns.all fun run => capitalRuns.all run.misses) = true := by decide +kernel
  exact List.all_eq_true.mp (List.all_eq_true.mp hall run h) other h'

theorem mem_of_runOf?_eq_some {n : Nat} {run : CapitalRun} :
    ∀ {runs : List CapitalRun}, runOf? n runs = some run → run ∈ runs ∧ run.covers n = true
  | [], h => by simp [runOf?] at h
  | other :: runs, h => by
    unfold runOf? at h
    split at h
    · contradiction
    · split at h
      · next hcovers =>
        cases h
        exact ⟨by simp, hcovers⟩
      · obtain ⟨hmem, hcovers⟩ := mem_of_runOf?_eq_some h
        exact ⟨List.mem_cons_of_mem _ hmem, hcovers⟩

theorem runOf?_eq_none {n : Nat} {runs : List CapitalRun} (h : ∀ run ∈ runs, run.covers n = false) :
    runOf? n runs = none := by
  cases hrun : runOf? n runs with
  | none => rfl
  | some run =>
    obtain ⟨hmem, hcovers⟩ := mem_of_runOf?_eq_some hrun
    simp [h run hmem] at hcovers

/-- A small letter of the table is no capital. -/
theorem smallLetter_smallLetter (n : Nat) : smallLetter (smallLetter n) = smallLetter n := by
  cases hrun : runOf? n capitalRuns with
  | none =>
    have hn : smallLetter n = n := by rw [smallLetter, hrun]
    rw [hn, hn]
  | some run =>
    obtain ⟨hmem, hcovers⟩ := mem_of_runOf?_eq_some hrun
    have hn : smallLetter n = run.smallLetter n := by rw [smallLetter, hrun]
    have hnone : runOf? (run.smallLetter n) capitalRuns = none :=
      runOf?_eq_none fun other hother => CapitalRun.not_covers_smallLetter (misses_of_mem hmem hother) hcovers
    rw [hn, smallLetter, hnone]

/-! ### Characters that lowercasing leaves alone -/

/-- Lowercasing leaves the character alone wherever it stands. -/
structure IsSmall (c : Char) : Prop where
  ne_sigma : c ≠ 'Σ'
  lowercaseChar_eq : lowercaseChar c = [c]

/-- Only the dotted capital I itself has its code point, and the table does not mention it. -/
theorem smallLetter_ne_dotted {n : Nat} (h : n ≠ 0x130) : smallLetter n ≠ 0x130 := by
  unfold smallLetter
  split
  · next run hrun =>
    obtain ⟨hmem, hcovers⟩ := mem_of_runOf?_eq_some hrun
    have hall : (capitalRuns.all (·.misses ⟨0x130, 0x130, 1, 0x130⟩)) = true := by decide +kernel
    have hnot := CapitalRun.not_covers_smallLetter (List.all_eq_true.mp hall run hmem) hcovers
    intro heq
    rw [heq] at hnot
    exact absurd hnot (by decide)
  · exact h

theorem smallLetter_ne_sigma (n : Nat) : smallLetter n ≠ 0x3A3 := by
  intro h
  have hsmall := smallLetter_smallLetter n
  rw [h] at hsmall
  exact absurd hsmall (by decide)

theorem toNat_ofNat {n : Nat} (h : n.isValidChar) : (Char.ofNat n).toNat = n := by
  rw [Char.ofNat, dif_pos h]
  rfl

theorem isSmall_of_mem_lowercaseChar {c d : Char} (h : d ∈ lowercaseChar c) : IsSmall d := by
  unfold lowercaseChar at h
  split at h
  · simp only [List.mem_cons, List.not_mem_nil, or_false] at h
    rcases h with rfl | rfl <;> exact ⟨by decide, by decide⟩
  · next hdotted =>
    obtain rfl := List.mem_singleton.mp h
    by_cases hvalid : (smallLetter c.toNat).isValidChar
    · have hnat := toNat_ofNat hvalid
      refine ⟨fun heq => smallLetter_ne_sigma c.toNat ?_, ?_⟩
      · rw [← hnat, heq]
        rfl
      · have hc : c.toNat ≠ 0x130 := fun h => hdotted (Char.toNat_inj.mp h)
        have hne : Char.ofNat (smallLetter c.toNat) ≠ 'İ' := fun heq =>
          smallLetter_ne_dotted hc (by rw [← hnat, heq]; rfl)
        rw [lowercaseChar, if_neg hne, hnat, smallLetter_smallLetter]
    · rw [Char.ofNat, dif_neg hvalid]
      exact ⟨by decide, by decide⟩

theorem isSmall_smallSigma (before after : List Char) : IsSmall (smallSigma before after) := by
  unfold smallSigma
  split <;> exact ⟨by decide, by decide⟩

/-- Lowercasing leaves small characters only. -/
theorem isSmall_of_mem_lowercaseAfter {d : Char} :
    ∀ {before cs : List Char}, d ∈ lowercaseAfter before cs → IsSmall d
  | before, [], h => by simp [lowercaseAfter] at h
  | before, c :: cs, h => by
    rcases List.mem_append.mp h with h | h
    · split at h
      · rw [List.mem_singleton.mp h]
        exact isSmall_smallSigma before cs
      · exact isSmall_of_mem_lowercaseChar h
    · exact isSmall_of_mem_lowercaseAfter h

theorem isSmall_of_mem_lowercase {s : String} {c : Char} (h : c ∈ (lowercase s).toList) : IsSmall c := by
  rw [toList_lowercase] at h
  exact isSmall_of_mem_lowercaseAfter h

theorem lowercaseAfter_eq_self {cs : List Char} (h : ∀ c ∈ cs, IsSmall c) (before : List Char) :
    lowercaseAfter before cs = cs := by
  induction cs generalizing before with
  | nil => rfl
  | cons c cs ih =>
    have hc := h c (by simp)
    rw [lowercaseAfter, if_neg hc.ne_sigma, hc.lowercaseChar_eq, ih fun d hd => h d (by simp [hd])]
    rfl

/-- A text in lowercase is one of small characters. -/
theorem lowercase_eq_self_iff {s : String} : lowercase s = s ↔ ∀ c ∈ s.toList, IsSmall c := by
  constructor
  · intro h c hc
    rw [← h] at hc
    exact isSmall_of_mem_lowercase hc
  · intro h
    rw [lowercase, lowercaseChars, lowercaseAfter_eq_self h, String.ofList_toList]

theorem lowercase_lowercase (s : String) : lowercase (lowercase s) = lowercase s :=
  lowercase_eq_self_iff.mpr fun _ => isSmall_of_mem_lowercase

theorem lowercase_fold (s : String) : lowercase (fold s) = fold s := lowercase_lowercase (trim s)

/-! ### The letters that a capital sigma meets -/

/-- A character that has weight and is no letter ends the search for a letter. -/
theorem meetsCased_cons {c : Char} (hignorable : covered caseIgnorableRanges c.toNat = false)
    (hcased : covered casedRanges c.toNat = false) (cs : List Char) : meetsCased (c :: cs) = false := by
  simp [meetsCased, hignorable, hcased]

/-- Where no letter is met from some place on, none is met across it. -/
theorem meetsCased_append {ys : List Char} (h : meetsCased ys = false) (xs : List Char) :
    meetsCased (xs ++ ys) = meetsCased xs := by
  induction xs with
  | nil => simpa [meetsCased] using h
  | cons x xs ih =>
    by_cases hx : covered caseIgnorableRanges x.toNat = true
    · simpa [meetsCased, hx] using ih
    · simp [meetsCased, hx]

/-! ### Blank characters end the surroundings of a letter -/

section Blank
variable {b : Char}

theorem isSmall_of_isBlank (h : isBlank b = true) : IsSmall b := by
  have hne {c : Char} (hc : isBlank c = false) : b ≠ c := fun heq => by simp [heq, hc] at h
  obtain ⟨range, hrange, hfirst, hlast⟩ := exists_range_of_covered h
  have happart : apart blankRanges (capitalRuns.map fun run => (run.first, run.last)) = true := by decide +kernel
  have hnone : runOf? b.toNat capitalRuns = none := runOf?_eq_none fun run hrun => by
    rw [Bool.eq_false_iff, ne_eq, CapitalRun.covers_iff]
    rintro ⟨hfirst', hlast', -⟩
    have := lt_or_lt_of_apart happart hrange (List.mem_map_of_mem hrun)
    omega
  refine ⟨hne (by decide), ?_⟩
  rw [lowercaseChar, if_neg (hne (by decide)), smallLetter, hnone, Char.ofNat_toNat]

/-- Letters beyond a blank character are not met. -/
theorem meetsCased_append_blank (h : isBlank b = true) (xs ys : List Char) :
    meetsCased (xs ++ b :: ys) = meetsCased xs := by
  have hignorable : covered caseIgnorableRanges b.toNat = false :=
    not_covered_of_apart (by decide +kernel : apart blankRanges caseIgnorableRanges = true) h
  have hcased : covered casedRanges b.toNat = false :=
    not_covered_of_apart (by decide +kernel : apart blankRanges casedRanges = true) h
  exact meetsCased_append (meetsCased_cons hignorable hcased ys) xs

theorem lowercaseAfter_before_blank (h : isBlank b = true) (before rest cs : List Char) :
    lowercaseAfter (before ++ b :: rest) cs = lowercaseAfter before cs := by
  induction cs generalizing before with
  | nil => rfl
  | cons c cs ih =>
    rw [lowercaseAfter, lowercaseAfter, smallSigma, smallSigma, meetsCased_append_blank h, ← List.cons_append, ih]

/-- A text is lowercased in parts between its blank characters. -/
theorem lowercaseAfter_append_blank (h : isBlank b = true) (before xs ys : List Char) :
    lowercaseAfter before (xs ++ b :: ys) = lowercaseAfter before xs ++ b :: lowercaseChars ys := by
  induction xs generalizing before with
  | nil =>
    have hb := isSmall_of_isBlank h
    have hys : lowercaseAfter (b :: before) ys = lowercaseChars ys := lowercaseAfter_before_blank h [] before ys
    rw [List.nil_append, lowercaseAfter, lowercaseAfter, if_neg hb.ne_sigma, hb.lowercaseChar_eq, hys]
    rfl
  | cons x xs ih =>
    rw [List.cons_append, lowercaseAfter, lowercaseAfter, ih, smallSigma, smallSigma, meetsCased_append_blank h,
      List.append_assoc]

theorem lowercaseChars_append_blank (h : isBlank b = true) (xs ys : List Char) :
    lowercaseChars (xs ++ b :: ys) = lowercaseChars xs ++ b :: lowercaseChars ys :=
  lowercaseAfter_append_blank h [] xs ys

end Blank

theorem lowercase_append_space (s t : String) : lowercase (s ++ " " ++ t) = lowercase s ++ " " ++ lowercase t := by
  rw [← String.toList_inj]
  simpa [lowercase] using lowercaseChars_append_blank isBlank_space s.toList t.toList

theorem lowercase_joinSpaces (ts : List String) : lowercase (joinSpaces ts) = joinSpaces (ts.map lowercase) := by
  induction ts with
  | nil => rfl
  | cons t ts ih =>
    by_cases hts : ts = []
    · simp [hts, joinSpaces]
    · rw [joinSpaces_cons hts, lowercase_append_space, ih, List.map_cons, joinSpaces_cons (by simpa using hts)]

/-! ### Trimming does not change the words -/

theorem words_lowercaseChars_dropWhile (cs : List Char) :
    words (.ofList (lowercaseChars (cs.dropWhile isBlank))) = words (.ofList (lowercaseChars cs)) := by
  induction cs with
  | nil => rfl
  | cons c cs ih =>
    by_cases hc : isBlank c = true
    · rw [List.dropWhile_cons_of_pos hc, ih, ← List.nil_append (c :: cs), lowercaseChars_append_blank hc,
        words_ofList_append_gap (not_isWordChar_of_isBlank hc)]
      simp [lowercaseChars, lowercaseAfter, words_empty]
    · rw [List.dropWhile_cons_of_neg hc]

theorem words_lowercaseChars_reverse_dropWhile (cs : List Char) :
    words (.ofList (lowercaseChars (cs.dropWhile isBlank).reverse)) =
      words (.ofList (lowercaseChars cs.reverse)) := by
  induction cs with
  | nil => rfl
  | cons c cs ih =>
    by_cases hc : isBlank c = true
    · rw [List.dropWhile_cons_of_pos hc, ih, List.reverse_cons, lowercaseChars_append_blank hc,
        words_ofList_append_gap (not_isWordChar_of_isBlank hc)]
      simp [lowercaseChars, lowercaseAfter, words_empty]
    · rw [List.dropWhile_cons_of_neg hc]

/-- A folded text has the words of the text in lowercase. -/
theorem words_fold (s : String) : words (fold s) = words (lowercase s) := by
  rw [fold, lowercase, toList_trim, trimChars, words_lowercaseChars_reverse_dropWhile, List.reverse_reverse,
    words_lowercaseChars_dropWhile, lowercase]

end TextAdventure.Text
