import TextAdventure.Proofs.NormalForm
import TextAdventure.Proofs.Runs

/-! What the characters between the words of a command mean to it. A command is put in lowercase before it is taken
    apart, and the small letter of a capital sigma depends on the letters around it, which are looked for across full
    stops and apostrophes. This is the only way in which the characters between words matter
    (`normalForms_agree_iff`), but for two capitals that stand outside words while their small letters do not. -/

namespace TextAdventure
namespace Text

/-! ### Lowercasing keeps words apart -/

/-- All code points from `first` to `last` lie in one of the ranges. -/
def spans (first last : Nat) : List CodeRange → Bool
  | [] => false
  | (low, high) :: ranges => low.ble first && (last.ble high || spans first last ranges)

theorem covered_of_spans {first last n : Nat} {ranges : List CodeRange} (h : spans first last ranges = true)
    (above : first ≤ n) (below : n ≤ last) : covered ranges n = true := by
  induction ranges with
  | nil => simp [spans] at h
  | cons range ranges ih =>
    obtain ⟨low, high⟩ := range
    simp only [spans, Bool.and_eq_true, Bool.or_eq_true, Nat.ble_eq] at h
    obtain ⟨starts, ends | later⟩ := h
    · simp [covered, show ¬n < low by omega, show n ≤ high by omega]
    · simp [covered, show ¬n < low by omega, ih later]

/-- Two capitals that are newer than the table of word characters: they stand outside words, and their small letters,
    which are older, do not. -/
def strayCapitals : List Char := ['\uA7D2', '\uA7D4']

namespace CapitalRun

/-- The capitals of the run. -/
def members (run : CapitalRun) : List Nat :=
  ((List.range (run.last - run.first + 1)).map (run.first + ·)).filter run.covers

theorem mem_members {run : CapitalRun} {n : Nat} (h : run.covers n = true) : n ∈ run.members := by
  obtain ⟨above, below, -⟩ := covers_iff.mp h
  refine List.mem_filter.mpr ⟨List.mem_map.mpr ⟨n - run.first, ?_, by omega⟩, h⟩
  rw [List.mem_range]
  omega

/-- The small letters of the run are characters. They are word characters where the capitals are. -/
def keepsWords (run : CapitalRun) : Bool :=
  let last := run.lower + (run.last - run.first)
  (last < 0xD800 || (0xE000 ≤ run.lower && last < 0x110000)) &&
    ((spans run.first run.last wordRanges && spans run.lower last wordRanges) ||
      apart [(run.first, run.last), (run.lower, last)] wordRanges ||
      run.members.all fun n =>
        covered wordRanges (run.smallLetter n) == covered wordRanges n || strayCapitals.any (·.toNat == n))

theorem keepsWords_of_mem {run : CapitalRun} (h : run ∈ capitalRuns) : run.keepsWords = true := by
  have all : capitalRuns.all keepsWords = true := by decide +kernel
  exact List.all_eq_true.mp all run h

theorem covered_smallLetter {run : CapitalRun} (h : run.keepsWords = true) {n : Nat} (capital : run.covers n = true)
    (known : ∀ c ∈ strayCapitals, c.toNat ≠ n) :
    (run.smallLetter n).isValidChar ∧ covered wordRanges (run.smallLetter n) = covered wordRanges n := by
  obtain ⟨above, below, -⟩ := covers_iff.mp capital
  have small : run.smallLetter n = run.lower + (n - run.first) := rfl
  simp only [keepsWords, Bool.and_eq_true, Bool.or_eq_true, decide_eq_true_eq] at h
  obtain ⟨valid, (⟨inside, inside'⟩ | outside) | each⟩ := h
  · refine ⟨by rw [small]; exact valid.imp (by omega) (by omega), ?_⟩
    rw [covered_of_spans inside above below, small, covered_of_spans inside' (by omega) (by omega)]
  · have out (m : Nat) (within : run.first ≤ m ∧ m ≤ run.last ∨
        run.lower ≤ m ∧ m ≤ run.lower + (run.last - run.first)) : covered wordRanges m = false := by
      rw [Bool.eq_false_iff]
      intro hit
      obtain ⟨range, member, low, high⟩ := exists_range_of_covered hit
      have capitals := lt_or_lt_of_apart outside (x := (run.first, run.last)) (by simp) member
      have smalls := lt_or_lt_of_apart outside (x := (run.lower, run.lower + (run.last - run.first))) (by simp) member
      dsimp only at capitals smalls
      omega
    refine ⟨by rw [small]; exact valid.imp (by omega) (by omega), ?_⟩
    rw [out n (.inl ⟨above, below⟩), small, out _ (.inr (by omega))]
  · refine ⟨by rw [small]; exact valid.imp (by omega) (by omega), ?_⟩
    have here := List.all_eq_true.mp each n (mem_members capital)
    rcases Bool.or_eq_true _ _ ▸ here with same | stray
    · exact beq_iff_eq.mp same
    · obtain ⟨c, member, same⟩ := List.any_eq_true.mp stray
      exact absurd (beq_iff_eq.mp same) (known c member)

end CapitalRun

/-- Lowercasing moves no character into a word or out of one, with two exceptions. -/
theorem isWordChar_of_mem_lowercaseChar {c d : Char} (known : c ∉ strayCapitals) (h : d ∈ lowercaseChar c) :
    isWordChar d = isWordChar c := by
  by_cases dotted : c = 'İ'
  · subst dotted
    have both : (lowercaseChar 'İ').all (isWordChar · == isWordChar 'İ') = true := by decide +kernel
    exact beq_iff_eq.mp (List.all_eq_true.mp both d h)
  · rw [lowercaseChar, if_neg dotted, List.mem_singleton] at h
    subst h
    cases found : runOf? c.toNat capitalRuns with
    | none => rw [smallLetter, found, Char.ofNat_toNat]
    | some run =>
      obtain ⟨member, capital⟩ := mem_of_runOf?_eq_some found
      have others : ∀ stray ∈ strayCapitals, stray.toNat ≠ c.toNat := fun stray listed same =>
        known (Char.toNat_inj.mp same ▸ listed)
      obtain ⟨valid, same⟩ := CapitalRun.covered_smallLetter (CapitalRun.keepsWords_of_mem member) capital others
      rw [smallLetter, found, isWordChar, toNat_ofNat valid, same, isWordChar]

theorem exists_lowercaseChar_of_outside {c : Char} (outside : isWordChar c = false) (known : c ∉ strayCapitals) :
    ∃ d, lowercaseChar c = [d] ∧ isWordChar d = false := by
  have single : lowercaseChar c = [Char.ofNat (smallLetter c.toNat)] := by
    rw [lowercaseChar, if_neg]
    rintro rfl
    exact absurd outside (by decide)
  exact ⟨_, single, by rw [isWordChar_of_mem_lowercaseChar known (single ▸ List.mem_singleton_self _), outside]⟩

theorem ne_sigma_of_outside {c : Char} (outside : isWordChar c = false) : c ≠ 'Σ' := by
  rintro rfl
  exact absurd outside (by decide)

/-! ### The small letters of capital sigmas -/

/-- What the capital sigmas among characters that follow `before`, nearest character first, become in turn. -/
def smallSigmasAfter (before : List Char) : List Char → List Char
  | [] => []
  | c :: rest =>
    if c = 'Σ' then smallSigma before rest :: smallSigmasAfter (c :: before) rest else smallSigmasAfter (c :: before) rest

/-- What the capital sigmas of a text become in turn: small sigmas or final ones. -/
def smallSigmas (s : String) : List Char := smallSigmasAfter [] s.toList

/-- The characters in lowercase, where the capital sigmas become the given letters in turn. -/
def spell (sigmas : List Char) : List Char → List Char
  | [] => []
  | c :: cs => if c = 'Σ' then sigmas.headD 'σ' :: spell sigmas.tail cs else lowercaseChar c ++ spell sigmas cs

/-- Of the letters for capital sigmas each run takes those that are left by the runs before it. -/
def spellRuns (sigmas : List Char) : List (List Char) → List (List Char)
  | [] => []
  | run :: runs => spell sigmas run :: spellRuns (sigmas.drop (run.count 'Σ')) runs

theorem spell_sigma (sigmas cs : List Char) : spell sigmas ('Σ' :: cs) = sigmas.headD 'σ' :: spell sigmas.tail cs := by
  rw [spell, if_pos rfl]

theorem spell_cons_of_ne {c : Char} (other : c ≠ 'Σ') (sigmas cs : List Char) :
    spell sigmas (c :: cs) = lowercaseChar c ++ spell sigmas cs := by
  rw [spell, if_neg other]

theorem spell_ne_nil {cs : List Char} (nonempty : cs ≠ []) (sigmas : List Char) : spell sigmas cs ≠ [] := by
  obtain ⟨c, cs, rfl⟩ := List.exists_cons_of_ne_nil nonempty
  by_cases sigma : c = 'Σ'
  · subst sigma
    simp [spell_sigma]
  · rw [spell_cons_of_ne sigma, lowercaseChar]
    split <;> simp

theorem lowercaseAfter_eq_spell (before cs : List Char) :
    lowercaseAfter before cs = spell (smallSigmasAfter before cs) cs := by
  induction cs generalizing before with
  | nil => rfl
  | cons c cs ih =>
    by_cases sigma : c = 'Σ'
    · simp [lowercaseAfter, smallSigmasAfter, sigma, spell_sigma, ih]
    · simp [lowercaseAfter, smallSigmasAfter, sigma, spell_cons_of_ne, ih]

theorem length_smallSigmasAfter (before cs : List Char) : (smallSigmasAfter before cs).length = cs.count 'Σ' := by
  induction cs generalizing before with
  | nil => rfl
  | cons c cs ih => by_cases sigma : c = 'Σ' <;> simp [smallSigmasAfter, sigma, ih]

theorem isWordChar_of_mem_smallSigmasAfter {before cs : List Char} {d : Char} (h : d ∈ smallSigmasAfter before cs) :
    isWordChar d = true := by
  induction cs generalizing before with
  | nil => simp [smallSigmasAfter] at h
  | cons c cs ih =>
    rw [smallSigmasAfter] at h
    split at h
    · rcases List.mem_cons.mp h with rfl | later
      · unfold smallSigma
        split <;> decide
      · exact ih later
    · exact ih h

theorem spell_append (sigmas xs ys : List Char) :
    spell sigmas (xs ++ ys) = spell sigmas xs ++ spell (sigmas.drop (xs.count 'Σ')) ys := by
  induction xs generalizing sigmas with
  | nil => simp [spell]
  | cons x xs ih =>
    by_cases sigma : x = 'Σ'
    · subst sigma
      rw [List.cons_append, spell_sigma, spell_sigma, ih, List.cons_append, List.count_cons_self, List.drop_tail]
    · rw [List.cons_append, spell_cons_of_ne sigma, spell_cons_of_ne sigma, ih, List.append_assoc,
        List.count_cons_of_ne sigma]

/-- The letters for capital sigmas can be read off what they are used in. -/
theorem spell_injective {sigmas others cs : List Char} (length : sigmas.length = cs.count 'Σ')
    (length' : others.length = cs.count 'Σ') (same : spell sigmas cs = spell others cs) : sigmas = others := by
  induction cs generalizing sigmas others with
  | nil =>
    rw [List.length_eq_zero_iff.mp length, List.length_eq_zero_iff.mp length']
  | cons c cs ih =>
    by_cases sigma : c = 'Σ'
    · subst sigma
      rw [List.count_cons_self] at length length'
      obtain ⟨first, sigmas, rfl⟩ := List.exists_cons_of_length_eq_add_one length
      obtain ⟨first', others, rfl⟩ := List.exists_cons_of_length_eq_add_one length'
      rw [spell_sigma, spell_sigma, List.cons.injEq] at same
      obtain ⟨head, tail⟩ := same
      rw [List.headD_cons, List.headD_cons] at head
      rw [List.tail_cons, List.tail_cons] at tail
      rw [head, ih (by simpa using length) (by simpa using length') tail]
    · rw [List.count_cons_of_ne sigma] at length length'
      rw [spell_cons_of_ne sigma, spell_cons_of_ne sigma, List.append_cancel_left_eq] at same
      exact ih length length' same

theorem flatten_spellRuns (sigmas : List Char) (runs : List (List Char)) :
    (spellRuns sigmas runs).flatten = spell sigmas runs.flatten := by
  induction runs generalizing sigmas with
  | nil => rfl
  | cons run runs ih => rw [spellRuns, List.flatten_cons, ih, List.flatten_cons, spell_append]

/-! ### The words of a text in lowercase -/

section
variable {sigmas : List Char} (letters : ∀ d ∈ sigmas, isWordChar d = true)

include letters

theorem isWordChar_headD : isWordChar (sigmas.headD 'σ') = true := by
  cases sigmas with
  | nil => decide
  | cons d sigmas => exact letters d List.mem_cons_self

theorem isWordChar_of_mem_spell {cs : List Char} (known : ∀ c ∈ cs, c ∉ strayCapitals) {inside : Bool}
    (all : ∀ c ∈ cs, isWordChar c = inside) {d : Char} (h : d ∈ spell sigmas cs) : isWordChar d = inside := by
  induction cs generalizing sigmas with
  | nil => simp [spell] at h
  | cons c cs ih =>
    obtain ⟨first, others⟩ := List.forall_mem_cons.mp known
    obtain ⟨here, later⟩ := List.forall_mem_cons.mp all
    by_cases sigma : c = 'Σ'
    · subst sigma
      rw [spell_sigma] at h
      rcases List.mem_cons.mp h with rfl | h
      · rw [isWordChar_headD letters, ← here]
        decide
      · exact ih (fun d member => letters d (List.mem_of_mem_tail member)) others later h
    · rw [spell_cons_of_ne sigma] at h
      rcases List.mem_append.mp h with h | h
      · rw [isWordChar_of_mem_lowercaseChar first h, here]
      · exact ih letters others later h

theorem hasRuns_spell {cs : List Char} {runs : List (List Char)} (known : ∀ c ∈ cs, c ∉ strayCapitals)
    (h : HasRuns cs runs) : HasRuns (spell sigmas cs) (spellRuns sigmas runs) := by
  induction h generalizing sigmas with
  | none outside => exact .none fun d member => isWordChar_of_mem_spell letters known outside member
  | @more gap run rest runs outside nonempty inside maximal _ ih =>
    simp only [List.mem_append, or_imp, forall_and] at known
    obtain ⟨⟨knownGap, knownRun⟩, knownRest⟩ := known
    have none : gap.count 'Σ' = 0 := List.count_eq_zero.mpr fun member => ne_sigma_of_outside (outside _ member) rfl
    rw [spell_append, spell_append, List.count_append, none, List.drop_zero, Nat.zero_add]
    have left : ∀ d ∈ sigmas.drop (run.count 'Σ'), isWordChar d = true := fun d member =>
      letters d (List.mem_of_mem_drop member)
    refine .more (fun d => isWordChar_of_mem_spell letters knownGap outside) (spell_ne_nil nonempty sigmas)
      (fun d => isWordChar_of_mem_spell letters knownRun inside) ?_ (ih left knownRest)
    -- What ends the run stands outside words and has one small letter, which ends the lowercase run.
    cases rest with
    | nil => simp [spell]
    | cons c rest =>
      have ends : isWordChar c = false := maximal c rfl
      obtain ⟨d, single, outside'⟩ := exists_lowercaseChar_of_outside ends (knownRest c List.mem_cons_self)
      rw [spell_cons_of_ne (ne_sigma_of_outside ends), single]
      simpa using outside'

end

theorem wordRuns_lowercaseChars {cs : List Char} (known : ∀ c ∈ cs, c ∉ strayCapitals) :
    wordRuns (lowercaseChars cs) = spellRuns (smallSigmasAfter [] cs) (wordRuns cs) := by
  rw [lowercaseChars, lowercaseAfter_eq_spell]
  exact (hasRuns_spell (fun d => isWordChar_of_mem_smallSigmasAfter) known (hasRuns_wordRuns cs)).wordRuns_eq

/-- The runs of a text hold all its word characters. -/
theorem HasRuns.flatten_eq {cs : List Char} {runs : List (List Char)} (h : HasRuns cs runs) :
    runs.flatten = cs.filter isWordChar := by
  induction h with
  | @none gap outside =>
    rw [List.filter_eq_nil_iff.mpr fun c member => by simp [outside c member]]
    rfl
  | @more gap run rest runs outside _ inside _ _ ih =>
    have none : gap.filter isWordChar = [] := List.filter_eq_nil_iff.mpr fun c member => by simp [outside c member]
    rw [List.flatten_cons, ih, List.filter_append, List.filter_append, none, List.filter_eq_self.mpr inside,
      List.nil_append]

theorem length_smallSigmas (s : String) : (smallSigmas s).length = (wordRuns s.toList).flatten.count 'Σ' := by
  rw [smallSigmas, length_smallSigmasAfter, (hasRuns_wordRuns s.toList).flatten_eq, List.count_filter (by decide)]

theorem wordRuns_eq_of_words {s t : String} (same : words s = words t) : wordRuns s.toList = wordRuns t.toList :=
  (List.map_inj_right fun _ _ => String.ofList_inj.mp).mp same

/-- Texts with the same words have the same words in lowercase if their capital sigmas become the same letters, and
    only then. -/
theorem words_lowercase_eq_iff {s t : String} (same : words s = words t) (known : ∀ c ∈ s.toList, c ∉ strayCapitals)
    (known' : ∀ c ∈ t.toList, c ∉ strayCapitals) :
    words (lowercase s) = words (lowercase t) ↔ smallSigmas s = smallSigmas t := by
  have runs := wordRuns_eq_of_words same
  rw [lowercase, lowercase, words_ofList, words_ofList, List.map_inj_right fun _ _ => String.ofList_inj.mp,
    wordRuns_lowercaseChars known, wordRuns_lowercaseChars known', runs]
  constructor
  · intro spelled
    have flat := congrArg List.flatten spelled
    rw [flatten_spellRuns, flatten_spellRuns] at flat
    exact spell_injective (runs ▸ length_smallSigmas s) (length_smallSigmas t) flat
  · intro sigmas
    rw [← smallSigmas, ← smallSigmas, sigmas]

/-! ### Words that are set apart -/

theorem smallSigmasAfter_append_of_outside {gap : List Char} (outside : ∀ c ∈ gap, isWordChar c = false)
    (before cs : List Char) : smallSigmasAfter before (gap ++ cs) = smallSigmasAfter (gap.reverse ++ before) cs := by
  induction gap generalizing before with
  | nil => rfl
  | cons c gap ih =>
    obtain ⟨first, others⟩ := List.forall_mem_cons.mp outside
    rw [List.cons_append, smallSigmasAfter, if_neg (ne_sigma_of_outside first), ih others, List.reverse_cons,
      List.append_assoc, List.singleton_append]

theorem smallSigmasAfter_of_outside {gap : List Char} (outside : ∀ c ∈ gap, isWordChar c = false) (before : List Char) :
    smallSigmasAfter before gap = [] := by
  have := smallSigmasAfter_append_of_outside outside before []
  rwa [List.append_nil] at this

/-- Where no letter is met from some place on, the capital sigmas before it become what they would without the rest. -/
theorem smallSigmasAfter_append {ys : List Char} (unmet : meetsCased ys = false) (before xs : List Char) :
    smallSigmasAfter before (xs ++ ys) = smallSigmasAfter before xs ++ smallSigmasAfter (xs.reverse ++ before) ys := by
  induction xs generalizing before with
  | nil => rfl
  | cons x xs ih =>
    rw [List.cons_append, smallSigmasAfter, smallSigmasAfter, smallSigma, smallSigma, meetsCased_append unmet, ih,
      List.reverse_cons, List.append_assoc, List.singleton_append]
    split
    · rw [List.cons_append]
    · rfl

theorem smallSigmasAfter_append_before {before : List Char} (unmet : meetsCased before = false) (nearer cs : List Char) :
    smallSigmasAfter (nearer ++ before) cs = smallSigmasAfter nearer cs := by
  induction cs generalizing nearer with
  | nil => rfl
  | cons c cs ih =>
    rw [smallSigmasAfter, smallSigmasAfter, smallSigma, smallSigma, meetsCased_append unmet, ← List.cons_append, ih]

theorem meetsCased_of_uncased {cs : List Char} (uncased : ∀ c ∈ cs, covered casedRanges c.toNat = false) :
    meetsCased cs = false := by
  unfold meetsCased
  split
  · rfl
  · next c rest found =>
    have kept : c ∈ cs.dropWhile fun c => covered caseIgnorableRanges c.toNat := found ▸ List.mem_cons_self
    exact uncased c ((List.dropWhile_sublist _).subset kept)

/-- The character stands outside words, and no letter is looked for across it. -/
def isBarrier (c : Char) : Bool :=
  !isWordChar c && !covered caseIgnorableRanges c.toNat && !covered casedRanges c.toNat

/-- Any two words of the text have a barrier between them, and no letter stands outside words. -/
structure SetApart (s : String) : Prop where
  alone : ∀ part ∈ s.toList.splitOnP isBarrier, (wordRuns part).length ≤ 1
  uncased : ∀ c ∈ s.toList, isWordChar c = false → covered casedRanges c.toNat = false

/-- In a text with one word at most, the capital sigmas become what they become in the word alone. -/
theorem HasRuns.smallSigmasAfter_of_lone {cs : List Char} {runs : List (List Char)} (h : HasRuns cs runs)
    (lone : runs.length ≤ 1) (uncased : ∀ c ∈ cs, isWordChar c = false → covered casedRanges c.toNat = false) :
    smallSigmasAfter [] cs = runs.flatMap (smallSigmasAfter []) := by
  cases h with
  | none outside => exact smallSigmasAfter_of_outside outside []
  | @more gap run rest runs outside nonempty inside maximal others =>
    obtain rfl : runs = [] := by simpa using lone
    cases others with
    | none outside' =>
      have before : meetsCased gap.reverse = false := by
        refine meetsCased_of_uncased fun c member => ?_
        rw [List.mem_reverse] at member
        exact uncased c (by simp [member]) (outside c member)
      have after : meetsCased rest = false := meetsCased_of_uncased fun c member =>
        uncased c (by simp [member]) (outside' c member)
      have alone := smallSigmasAfter_append_before before [] run
      rw [List.append_assoc, smallSigmasAfter_append_of_outside outside, smallSigmasAfter_append after,
        smallSigmasAfter_of_outside outside', List.append_nil, List.append_nil]
      rw [List.nil_append] at alone
      rw [alone, List.flatMap_singleton]

theorem smallSigmasAfter_of_alone (cs : List Char) (alone : ∀ part ∈ cs.splitOnP isBarrier, (wordRuns part).length ≤ 1)
    (uncased : ∀ c ∈ cs, isWordChar c = false → covered casedRanges c.toNat = false) :
    smallSigmasAfter [] cs = (wordRuns cs).flatMap (smallSigmasAfter []) := by
  induction cs using cut_induction (p := isBarrier) with
  | whole part free =>
    rw [List.splitOnP_eq_singleton free] at alone
    exact (hasRuns_wordRuns part).smallSigmasAfter_of_lone (alone part List.mem_cons_self) uncased
  | cut part b rest free barrier ih =>
    rw [List.splitOnP_append_cons part rest barrier, List.splitOnP_eq_singleton free, List.singleton_append,
      List.forall_mem_cons] at alone
    simp only [isBarrier, Bool.and_eq_true, Bool.not_eq_true'] at barrier
    obtain ⟨⟨outside, weighty⟩, uncasedHere⟩ := barrier
    simp only [List.mem_append, List.mem_cons, or_imp, forall_and, forall_eq] at uncased
    obtain ⟨uncasedPart, -, uncasedRest⟩ := uncased
    have unmet (cs : List Char) : meetsCased (b :: cs) = false := meetsCased_cons weighty uncasedHere cs
    have before := smallSigmasAfter_append_before (unmet part.reverse) [] rest
    rw [List.nil_append] at before
    rw [smallSigmasAfter_append (unmet rest), List.append_nil, smallSigmasAfter, if_neg (ne_sigma_of_outside outside),
      before, wordRuns_append_gap outside, List.flatMap_append, ih alone.2 uncasedRest,
      (hasRuns_wordRuns part).smallSigmasAfter_of_lone alone.1 uncasedPart]

/-- The capital sigmas of words that are set apart become what they become in each word alone. -/
theorem SetApart.smallSigmas_eq {s : String} (apart : SetApart s) : smallSigmas s = (words s).flatMap smallSigmas := by
  have read : words s = (wordRuns s.toList).map String.ofList := rfl
  rw [smallSigmas, smallSigmasAfter_of_alone s.toList apart.alone apart.uncased, read, List.flatMap_map]
  simp [smallSigmas]

end Text

/-! ### Commands with the same words -/

namespace Normalizer
open Text

/-- A normal form depends on the words of the text in lowercase only. -/
theorem normalize_congr {s t : String} (same : words (lowercase s) = words (lowercase t)) (n : Normalizer) :
    n.normalize s = n.normalize t := by
  rw [normalize, collapse_eq_joinSpaces_words (fold s), words_fold, same, ← words_fold, ← collapse_eq_joinSpaces_words,
    normalize]

/-- Without junk words and aliases, the normal form shows the words of the text in lowercase. -/
theorem words_normalize_of_bare (s : String) : words ((ofTables [] .empty).normalize s) = words (lowercase s) := by
  have settled : (ofTables [] .empty).Settled := settled_ofTables [] AliasTable.folded_empty
  have plain : ∀ w ∈ words (lowercase s), (ofTables [] .empty).IsPlain w := fun w member =>
    ⟨(mem_words member).1, rfl, rfl⟩
  rw [normalize_eq_joinSpaces_tokens settled, tokens, flatMap_rewrite_of_isPlain plain,
    words_joinSpaces_of_isWord fun w member => (mem_words member).1]

/-- Whatever stands around and between the words of two commands, they have the same normal form under every
    normalizer if their capital sigmas become the same letters, and only then. So they do if there is no capital sigma,
    and if in both any two words have a character between them across which no letter is looked for. -/
theorem normalForms_agree_iff {s t : String} (same : words s = words t) (known : ∀ c ∈ s.toList, c ∉ strayCapitals)
    (known' : ∀ c ∈ t.toList, c ∉ strayCapitals) :
    ((∀ n : Normalizer, n.normalize s = n.normalize t) ↔ smallSigmas s = smallSigmas t) ∧
      ('Σ' ∉ s.toList → ∀ n : Normalizer, n.normalize s = n.normalize t) ∧
      (SetApart s → SetApart t → ∀ n : Normalizer, n.normalize s = n.normalize t) := by
  have lowered := words_lowercase_eq_iff same known known'
  have agree : (∀ n : Normalizer, n.normalize s = n.normalize t) ↔ smallSigmas s = smallSigmas t := by
    constructor
    · intro all
      have bare := congrArg words (all (ofTables [] .empty))
      rw [words_normalize_of_bare, words_normalize_of_bare] at bare
      exact lowered.mp bare
    · exact fun sigmas => normalize_congr (lowered.mpr sigmas)
  refine ⟨agree, fun none => agree.mpr ?_, fun apart apart' => agree.mpr ?_⟩
  · have empty : (smallSigmas s).length = 0 := by
      rw [smallSigmas, length_smallSigmasAfter]
      exact List.count_eq_zero.mpr none
    have empty' : (smallSigmas t).length = 0 := by
      rw [length_smallSigmas, ← wordRuns_eq_of_words same, ← length_smallSigmas, empty]
    rw [List.length_eq_zero_iff.mp empty, List.length_eq_zero_iff.mp empty']
  · rw [apart.smallSigmas_eq, apart'.smallSigmas_eq, same]

/-- Brackets and commas with blanks count for nothing. Across a full stop without a blank the next letter is found, so
    the first word does not get a final sigma. -/
theorem normalForms_agree_iff_odos :
    let s := "ΟΔΟΣ, ΑΒ!"
    let t := "(ΟΔΟΣ) ΑΒ"
    let u := "ΟΔΟΣ.ΑΒ"
    words s = words t ∧ (∀ n : Normalizer, n.normalize s = n.normalize t) ∧
      words u = words t ∧ ¬∀ n : Normalizer, n.normalize u = n.normalize t := by
  intro s t u
  have known : ∀ text ∈ [s, t, u], ∀ c ∈ text.toList, c ∉ strayCapitals := by
    have all : ([s, t, u].all fun text => text.toList.all fun c => !strayCapitals.contains c) = true := by decide +kernel
    intro text listed c member
    simpa using List.all_eq_true.mp (List.all_eq_true.mp all text listed) c member
  have setApart : ∀ text ∈ [s, t], SetApart text := by
    have all : ([s, t].all fun text => ((text.toList.splitOnP isBarrier).all fun part => (wordRuns part).length ≤ 1) &&
        text.toList.all fun c => isWordChar c || !covered casedRanges c.toNat) = true := by decide +kernel
    intro text listed
    obtain ⟨alone, uncased⟩ := Bool.and_eq_true _ _ ▸ List.all_eq_true.mp all text listed
    refine ⟨fun part member => of_decide_eq_true (List.all_eq_true.mp alone part member), fun c member outside => ?_⟩
    simpa [outside] using List.all_eq_true.mp uncased c member
  have same : words s = words t := by decide +kernel
  have same' : words u = words t := by decide +kernel
  have differ : smallSigmas u ≠ smallSigmas t := by decide +kernel
  have agree := normalForms_agree_iff same (known s (by simp)) (known t (by simp))
  have agree' := normalForms_agree_iff same' (known u (by simp)) (known t (by simp))
  exact ⟨same, agree.2.2 (setApart s (by simp)) (setApart t (by simp)), same', (not_congr agree'.1).mpr differ⟩

/-- Texts with the same words may have different normal forms: across a full stop the next letter keeps a sigma from
    being final, and a capital that is newer than the table of word characters becomes a letter of the word. -/
theorem separators_heard :
    let n := ofTables [] .empty
    words "ΑΣ.Β" = words "ΑΣ Β" ∧ n.normalize "ΑΣ.Β" = "ασ β" ∧ n.normalize "ΑΣ Β" = "ας β" ∧
      words "x\uA7D2y" = words "x y" ∧ n.normalize "x\uA7D2y" = "x\uA7D3y" ∧ n.normalize "x y" = "x y" ∧
      ¬∀ (n : Normalizer) (s t : String), words s = words t → n.normalize s = n.normalize t := by
  intro n
  have same : words "ΑΣ.Β" = words "ΑΣ Β" := by decide +kernel
  have first : n.normalize "ΑΣ.Β" = "ασ β" := by decide +kernel
  have second : n.normalize "ΑΣ Β" = "ας β" := by decide +kernel
  refine ⟨same, first, second, by decide +kernel, by decide +kernel, by decide +kernel, fun agree => ?_⟩
  have equal := agree n _ _ same
  rw [first, second] at equal
  exact absurd equal (by decide)

end Normalizer
end TextAdventure
