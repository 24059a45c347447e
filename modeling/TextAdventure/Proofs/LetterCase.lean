import TextAdventure.Proofs.Lowercase
import Mathlib.Data.List.DropRight

/-! Names that differ in the case of the letters A to Z. Such a letter and its small letter are alike in all
    that trimming and lowercasing look at, so two names that differ only in the case of these letters are
    folded to one (`fold_eq_of_equalUpToAsciiCase`). -/

namespace TextAdventure.Text

/-! ### The letters A to Z -/

/-- What does not tell the capitals A to Z from their small letters depends on a character only up to the case
    of these letters. -/
theorem apply_toLower {β : Type} {f : Char → β}
    (letters : ∀ n < 26, f (Char.ofNat (65 + n)).toLower = f (Char.ofNat (65 + n))) (c : Char) :
    f c.toLower = f c := by
  by_cases capital : c.val ≥ 'A'.val ∧ c.val ≤ 'Z'.val
  · have first : 65 ≤ c.toNat := capital.1
    have last : c.toNat ≤ 90 := capital.2
    have letter := letters (c.toNat - 65) (by omega)
    rwa [Nat.add_sub_cancel' first, Char.ofNat_toNat] at letter
  · have kept : c.toLower = c := dif_neg capital
    rw [kept]

theorem isBlank_toLower (c : Char) : isBlank c.toLower = isBlank c := apply_toLower (by decide) c

theorem lowercaseChar_toLower (c : Char) : lowercaseChar c.toLower = lowercaseChar c :=
  apply_toLower (by decide +kernel) c

theorem ignorable_toLower (c : Char) :
    covered caseIgnorableRanges c.toLower.toNat = covered caseIgnorableRanges c.toNat :=
  apply_toLower (f := fun c => covered caseIgnorableRanges c.toNat) (by decide +kernel) c

theorem cased_toLower (c : Char) : covered casedRanges c.toLower.toNat = covered casedRanges c.toNat :=
  apply_toLower (f := fun c => covered casedRanges c.toNat) (by decide +kernel) c

theorem toLower_eq_sigma_iff (c : Char) : c.toLower = 'Σ' ↔ c = 'Σ' :=
  iff_of_eq (apply_toLower (f := fun c => c = 'Σ') (by decide) c)

/-! ### Trimming and lowercasing up to the case of A to Z -/

theorem meetsCased_map_toLower (cs : List Char) : meetsCased (cs.map Char.toLower) = meetsCased cs := by
  induction cs with
  | nil => rfl
  | cons c cs ih =>
    by_cases ignorable : covered caseIgnorableRanges c.toNat = true
    · simpa [meetsCased, ignorable_toLower, ignorable] using ih
    · simp [meetsCased, ignorable_toLower, cased_toLower, ignorable]

theorem lowercaseAfter_map_toLower (before cs : List Char) :
    lowercaseAfter (before.map Char.toLower) (cs.map Char.toLower) = lowercaseAfter before cs := by
  induction cs generalizing before with
  | nil => rfl
  | cons c cs ih =>
    have rest := ih (c :: before)
    rw [List.map_cons] at rest
    rw [List.map_cons, lowercaseAfter, lowercaseAfter, smallSigma, smallSigma, meetsCased_map_toLower,
      meetsCased_map_toLower, lowercaseChar_toLower, rest]
    simp only [toLower_eq_sigma_iff]

theorem trimChars_map_toLower (cs : List Char) : trimChars (cs.map Char.toLower) = (trimChars cs).map Char.toLower := by
  have same : isBlank ∘ Char.toLower = isBlank := funext isBlank_toLower
  rw [trimChars, trimChars, List.dropWhile_map, same, ← List.map_reverse, List.dropWhile_map, same, List.map_reverse]

theorem equalUpToAsciiCase_iff {s t : String} :
    equalUpToAsciiCase s t = true ↔ s.toList.map Char.toLower = t.toList.map Char.toLower := beq_iff_eq

theorem equalUpToAsciiCase_refl (s : String) : equalUpToAsciiCase s s = true := equalUpToAsciiCase_iff.mpr rfl

theorem lowercase_eq_of_equalUpToAsciiCase {s t : String} (alike : equalUpToAsciiCase s t = true) :
    lowercase s = lowercase t := by
  have lowered (u : String) : lowercaseChars (u.toList.map Char.toLower) = lowercaseChars u.toList :=
    lowercaseAfter_map_toLower [] u.toList
  rw [lowercase, lowercase, ← lowered s, equalUpToAsciiCase_iff.mp alike, lowered t]

/-! ### Trimmed texts -/

theorem rdropWhile_cons {p : Char → Bool} (c : Char) (cs : List Char) :
    (c :: cs).rdropWhile p = if cs.rdropWhile p = [] ∧ p c = true then [] else c :: cs.rdropWhile p := by
  simp only [List.rdropWhile, List.reverse_cons, List.dropWhile_append, List.isEmpty_iff, List.reverse_eq_nil_iff]
  by_cases blank : cs.reverse.dropWhile p = [] <;> by_cases drop : p c = true <;> simp [blank, drop]

theorem rdropWhile_append {p : Char → Bool} {before : List Char} (kept : before.any p = false) (cs : List Char) :
    (before ++ cs).rdropWhile p = before ++ cs.rdropWhile p := by
  induction before with
  | nil => rfl
  | cons c before ih =>
    rw [List.any_cons, Bool.or_eq_false_iff] at kept
    obtain ⟨first, rest⟩ := kept
    rw [List.cons_append, rdropWhile_cons, ih rest, first, if_neg (by simp), List.cons_append]

/-- It does not matter which end of a text is trimmed first. -/
theorem dropWhile_rdropWhile {p : Char → Bool} (cs : List Char) :
    (cs.rdropWhile p).dropWhile p = (cs.dropWhile p).rdropWhile p := by
  induction cs with
  | nil => rfl
  | cons c cs ih =>
    rw [rdropWhile_cons]
    by_cases drop : p c = true
    · rw [List.dropWhile_cons_of_pos drop, ← ih]
      by_cases blank : cs.rdropWhile p = []
      · simp [blank, drop]
      · rw [if_neg fun both => blank both.1, List.dropWhile_cons_of_pos drop]
    · rw [if_neg fun both => drop both.2, List.dropWhile_cons_of_neg drop, List.dropWhile_cons_of_neg drop,
        rdropWhile_cons, if_neg fun both => drop both.2]

theorem trimChars_eq_rdropWhile (cs : List Char) : trimChars cs = (cs.dropWhile isBlank).rdropWhile isBlank := rfl

theorem trimChars_rdropWhile (cs : List Char) : trimChars (cs.rdropWhile isBlank) = trimChars cs := by
  rw [trimChars_eq_rdropWhile, dropWhile_rdropWhile, List.rdropWhile_idempotent, trimChars_eq_rdropWhile]

theorem trimChars_trimChars (cs : List Char) : trimChars (trimChars cs) = trimChars cs := by
  rw [trimChars_eq_rdropWhile cs, trimChars_rdropWhile, trimChars_eq_rdropWhile, List.dropWhile_idempotent]

theorem trimChars_isInfix (cs : List Char) : trimChars cs <:+: cs :=
  (List.rdropWhile_prefix isBlank _).isInfix.trans (List.dropWhile_suffix isBlank).isInfix

/-- A name that is a trimmed one up to the case of A to Z is trimmed. -/
theorem trim_eq_self_of_equalUpToAsciiCase {s t : String} (alike : equalUpToAsciiCase (trim s) t = true) : trim t = t := by
  -- In lowercase both are the same trimmed text, and lowercase letters are as many and as blank.
  rw [equalUpToAsciiCase_iff, toList_trim, ← trimChars_map_toLower] at alike
  have lowered : (trimChars t.toList).map Char.toLower = t.toList.map Char.toLower := by
    rw [← trimChars_map_toLower, ← alike, trimChars_trimChars]
  have whole : (trimChars t.toList).length = t.toList.length := by simpa using congrArg List.length lowered
  rw [trim, (trimChars_isInfix t.toList).eq_of_length whole, String.ofList_toList]

/-- A name that is a declared one up to blanks around the latter and the case of A to Z is folded like it. -/
theorem fold_eq_of_equalUpToAsciiCase {s t : String} (alike : equalUpToAsciiCase (trim s) t = true) : fold t = fold s := by
  rw [fold, trim_eq_self_of_equalUpToAsciiCase alike, fold, lowercase_eq_of_equalUpToAsciiCase alike]

/-- A folded name that is another one up to blanks around the latter and the case of A to Z is the other one folded. -/
theorem fold_eq_of_equalUpToAsciiCase_fold {s t : String} (alike : equalUpToAsciiCase (trim s) (fold t) = true) :
    fold t = fold s :=
  calc fold t = lowercase (fold t) := (lowercase_fold t).symm
    _ = lowercase (trim s) := (lowercase_eq_of_equalUpToAsciiCase alike).symm

/-! ### Texts without a character that is not blank -/

theorem lowercase_eq_empty_iff {s : String} : lowercase s = "" ↔ s = "" := by
  rw [← String.toList_eq_nil_iff, toList_lowercase, ← String.toList_eq_nil_iff]
  cases s.toList with
  | nil => simp [lowercaseChars, lowercaseAfter]
  | cons c cs =>
    by_cases sigma : c = 'Σ'
    · simp [lowercaseChars, lowercaseAfter, sigma]
    · by_cases dotted : c = 'İ' <;> simp [lowercaseChars, lowercaseAfter, lowercaseChar, sigma, dotted]

theorem trim_eq_empty_iff {s : String} : trim s = "" ↔ allBlank s = true := by
  rw [← String.toList_eq_nil_iff, toList_trim, trimChars_eq_nil_iff, allBlank]

theorem fold_eq_empty_iff {s : String} : fold s = "" ↔ allBlank s = true := by
  rw [fold, lowercase_eq_empty_iff, trim_eq_empty_iff]

end TextAdventure.Text
