import TextAdventure.Command.Normalizer
import TextAdventure.Proofs.Lowercase

/-! The normal form of commands as a rewriting of their words. Every word of the text in lowercase is
    dropped if it is junk, replaced by the words of its root if it is an alias, and else kept
    (`normalize_eq_joinSpaces_tokens`). The roots of kept aliases hold no word that would be rewritten again
    (`Settled`), so normal forms are exactly the texts that normalizing leaves alone, and an alias and its
    root mean the same in every command. -/

namespace TextAdventure
open Text

/-! ### Alias tables -/

/-- The alias is a word in lowercase, and its root is a text in lowercase. -/
structure Alias.Folded (a : Alias) : Prop where
  isWord_word : isWord a.word = true
  lowercase_word : lowercase a.word = a.word
  lowercase_root : lowercase a.root = a.root

theorem AliasGroup.folded_of_mem_entries {group : AliasGroup} {a : Alias} (h : a ∈ group.entries) : a.Folded := by
  obtain ⟨word, hword, rfl⟩ := List.mem_map.mp h
  obtain ⟨hfold, hisWord⟩ := List.mem_filter.mp hword
  obtain ⟨text, -, rfl⟩ := List.mem_map.mp hfold
  exact ⟨hisWord, lowercase_fold text, lowercase_fold group.root⟩

namespace AliasTable
variable {table : AliasTable}

/-- All aliases of the table are folded. -/
def Folded (table : AliasTable) : Prop := ∀ a ∈ table.entries.values, a.Folded

theorem folded_empty : empty.Folded := fun _ h => absurd h List.not_mem_nil

theorem Folded.merge (h : table.Folded) (groups : List AliasGroup) : (table.merge groups).Folded := by
  intro a ha
  rcases Catalog.mem_insertAll ha with ha | ha
  · exact h a ha
  · obtain ⟨group, -, ha⟩ := List.mem_flatMap.mp ha
    exact AliasGroup.folded_of_mem_entries ha

theorem folded_ofGroups (language world : List AliasGroup) : (ofGroups language world).Folded :=
  (folded_empty.merge language).merge world

theorem Folded.foldl_merge (h : table.Folded) (more : List (List AliasGroup)) :
    (more.foldl AliasTable.merge table).Folded := by
  induction more generalizing table with
  | nil => exact h
  | cons groups more ih => exact ih (h.merge groups)

theorem Folded.filter (h : table.Folded) (p : Alias → Bool) : (table.filter p).Folded :=
  fun a ha => h a (List.mem_filter.mp ha).1

theorem get?_eq_some_iff {word root : String} : table.get? word = some root ↔ ⟨word, root⟩ ∈ table.entries.values := by
  simp only [get?, Option.map_eq_some_iff, Catalog.get?_eq_some_iff]
  constructor
  · rintro ⟨⟨_, _⟩, ⟨h, rfl⟩, rfl⟩
    exact h
  · exact fun h => ⟨_, ⟨h, rfl⟩, rfl⟩

theorem Folded.get? (h : table.Folded) {word root : String} (hget : table.get? word = some root) :
    Alias.Folded ⟨word, root⟩ := h _ (get?_eq_some_iff.mp hget)

/-- Nothing stands for the empty text. -/
theorem Folded.get?_empty (h : table.Folded) : table.get? "" = none := by
  cases hget : table.get? "" with
  | none => rfl
  | some root => exact absurd (h.get? hget).isWord_word (by simp [isWord])

end AliasTable

namespace Normalizer
variable {n : Normalizer}

/-! ### What normalizers keep -/

/-- The word is neither junk nor a kept alias. -/
structure IsPlain (n : Normalizer) (w : String) : Prop where
  isWord : isWord w = true
  not_junk : n.isJunk w = false
  not_alias : n.aliases.get? w = none

/-- The kept aliases are folded, and the words of their roots are plain. -/
structure Settled (n : Normalizer) : Prop where
  folded : n.aliases.Folded
  plain : ∀ word root, n.aliases.get? word = some root → ∀ w ∈ words root, n.IsPlain w

theorem get?_aliases_ofTables {junk : List String} {table : AliasTable} {word root : String} :
    (ofTables junk table).aliases.get? word = some root ↔
      table.get? word = some root ∧ isStable (ofTables junk table).junk table root = true := by
  rw [AliasTable.get?_eq_some_iff, AliasTable.get?_eq_some_iff]
  exact List.mem_filter

theorem settled_ofTables (junk : List String) {table : AliasTable} (h : table.Folded) :
    (ofTables junk table).Settled where
  folded := h.filter _
  plain word root hget w hw := by
    obtain ⟨-, hstable⟩ := get?_aliases_ofTables.mp hget
    have hplain := List.all_eq_true.mp hstable w hw
    simp only [Bool.and_eq_true, Bool.not_eq_true', AliasTable.contains_eq_isSome_get?, Option.isSome_eq_false_iff,
      Option.isNone_iff_eq_none] at hplain
    refine ⟨(mem_words hw).1, hplain.1, ?_⟩
    -- The table binds `w` to nothing, so neither do the aliases that are kept of it.
    rw [Option.eq_none_iff_forall_ne_some]
    intro r hkept
    simp [(get?_aliases_ofTables.mp hkept).1] at hplain

/-! ### Words in a row, word by word -/

theorem words_dropJunk_joinSpaces {ws : List String} (h : ∀ w ∈ ws, Text.isWord w = true) :
    words (n.dropJunk (joinSpaces ws)) = ws.filter (!n.isJunk ·) := by
  by_cases hws : ws = []
  · subst hws
    have hempty : ([""].filter (!n.isJunk ·)).flatMap words = [] := by
      by_cases hj : n.isJunk "" = true <;> simp [hj, words_empty]
    rw [dropJunk, splitSpaces_joinSpaces_nil, words_joinSpaces, hempty]
    rfl
  · rw [dropJunk, splitSpaces_joinSpaces h hws, words_joinSpaces_of_isWord fun w hw => h w (List.mem_filter.mp hw).1]

theorem words_resolveAliases_joinSpaces (hempty : n.aliases.get? "" = none) {ws : List String}
    (h : ∀ w ∈ ws, Text.isWord w = true) :
    words (n.resolveAliases (joinSpaces ws)) = ws.flatMap fun w => words (n.aliases.resolve w) := by
  by_cases hws : ws = []
  · subst hws
    rw [resolveAliases, splitSpaces_joinSpaces_nil, words_joinSpaces]
    simp [AliasTable.resolve, hempty, words_empty]
  · rw [resolveAliases, splitSpaces_joinSpaces h hws, words_joinSpaces, List.flatMap_map]

/-- What a word of a command becomes: nothing if it is junk, the words of its root if it is an alias. -/
def rewrite (n : Normalizer) (w : String) : List String :=
  if n.isJunk w then [] else words (n.aliases.resolve w)

/-- The words of the normal form of a text. -/
def tokens (n : Normalizer) (s : String) : List String := (words (lowercase s)).flatMap n.rewrite

theorem flatMap_rewrite (ws : List String) :
    ws.flatMap n.rewrite = (ws.filter (!n.isJunk ·)).flatMap fun w => words (n.aliases.resolve w) := by
  induction ws with
  | nil => rfl
  | cons w ws ih => cases hj : n.isJunk w <;> simp [rewrite, hj, ih]

/-- The normal form is the text's words, each rewritten, in a row. -/
theorem normalize_eq_joinSpaces_tokens (h : n.Settled) (raw : String) :
    n.normalize raw = joinSpaces (n.tokens raw) := by
  have hword : ∀ w ∈ words (fold raw), Text.isWord w = true := fun w hw => (mem_words hw).1
  have hkept : ∀ w ∈ (words (fold raw)).filter (!n.isJunk ·), Text.isWord w = true := fun w hw =>
    hword w (List.mem_filter.mp hw).1
  rw [normalize, collapse_eq_joinSpaces_words (fold raw), collapse_eq_joinSpaces_words (n.dropJunk _),
    words_dropJunk_joinSpaces hword, collapse_eq_joinSpaces_words,
    words_resolveAliases_joinSpaces h.folded.get?_empty hkept, ← flatMap_rewrite, words_fold, tokens]

/-- Normal forms are words in a row. -/
theorem joinSpaces_words_of_normalize_eq {raw s : String} (normal : n.normalize raw = s) : joinSpaces (words s) = s := by
  rw [← normal, normalize, words_collapse, ← collapse_eq_joinSpaces_words]

/-! ### Canonical texts -/

theorem rewrite_of_isPlain {w : String} (h : n.IsPlain w) : n.rewrite w = [w] := by
  rw [rewrite, if_neg (by simp [h.not_junk]), AliasTable.resolve, h.not_alias, Option.getD_none,
    words_of_isWord h.isWord]

theorem flatMap_rewrite_of_isPlain {ws : List String} (h : ∀ w ∈ ws, n.IsPlain w) : ws.flatMap n.rewrite = ws := by
  induction ws with
  | nil => rfl
  | cons w ws ih =>
    rw [List.flatMap_cons, rewrite_of_isPlain (h w (by simp)), ih fun w hw => h w (by simp [hw])]
    rfl

/-- Rewriting leaves plain words in lowercase. -/
theorem isPlain_of_mem_rewrite (h : n.Settled) {w t : String} (hw : Text.isWord w = true) (ht : t ∈ n.rewrite w)
    (hsmall : lowercase w = w) : n.IsPlain t ∧ lowercase t = t := by
  unfold rewrite at ht
  split at ht
  · simp at ht
  · next hjunk =>
    cases hget : n.aliases.get? w with
    | none =>
      rw [AliasTable.resolve, hget, Option.getD_none, words_of_isWord hw, List.mem_singleton] at ht
      subst ht
      exact ⟨⟨hw, by simpa using hjunk, hget⟩, hsmall⟩
    | some root =>
      rw [AliasTable.resolve, hget, Option.getD_some] at ht
      have hroot := lowercase_eq_self_iff.mp (h.folded.get? hget).lowercase_root
      exact ⟨h.plain w root hget t ht, lowercase_eq_self_iff.mpr fun c hc => hroot c ((mem_words ht).2 c hc)⟩

/-- A canonical text is in lowercase and consists of plain words with single spaces between them. -/
def IsCanonical (n : Normalizer) (s : String) : Prop :=
  lowercase s = s ∧ ∃ tokens, s = joinSpaces tokens ∧ ∀ t ∈ tokens, n.IsPlain t

theorem isCanonical_joinSpaces {ts : List String} (h : ∀ t ∈ ts, n.IsPlain t ∧ lowercase t = t) :
    n.IsCanonical (joinSpaces ts) := by
  have hmap : ts.map lowercase = ts := by
    rw [List.map_congr_left fun t ht => (h t ht).2, List.map_id']
  refine ⟨?_, ts, rfl, fun t ht => (h t ht).1⟩
  rw [lowercase_joinSpaces, hmap]

/-- The words of a normal form are plain words in lowercase. -/
theorem isPlain_of_mem_tokens (h : n.Settled) {raw t : String} (ht : t ∈ n.tokens raw) :
    n.IsPlain t ∧ lowercase t = t := by
  obtain ⟨w, hw, ht⟩ := List.mem_flatMap.mp ht
  obtain ⟨hword, hchars⟩ := mem_words hw
  exact isPlain_of_mem_rewrite h hword ht
    (lowercase_eq_self_iff.mpr fun c hc => isSmall_of_mem_lowercase (hchars c hc))

theorem isCanonical_normalize (h : n.Settled) (raw : String) : n.IsCanonical (n.normalize raw) := by
  rw [normalize_eq_joinSpaces_tokens h]
  exact isCanonical_joinSpaces fun t ht => isPlain_of_mem_tokens h ht

theorem normalize_of_isCanonical (h : n.Settled) {s : String} (hs : n.IsCanonical s) : n.normalize s = s := by
  obtain ⟨hlower, ts, rfl, hplain⟩ := hs
  rw [normalize_eq_joinSpaces_tokens h, tokens, hlower, words_joinSpaces_of_isWord fun t ht => (hplain t ht).isWord,
    flatMap_rewrite_of_isPlain hplain]

/-- Whatever the junk words and the alias groups of a language, a world and later merges are, the canonical
    texts are the normal forms, and they are the texts that normalizing leaves alone. -/
theorem normalForms_eq_fixedPoints (junk : List String) (language world : List AliasGroup)
    (more : List (List AliasGroup)) :
    let n := ofTables junk (more.foldl AliasTable.merge (.ofGroups language world))
    (∀ s, (∃ raw, n.normalize raw = s) ↔ n.IsCanonical s) ∧ (∀ s, n.normalize s = s ↔ n.IsCanonical s) ∧
      ∀ raw, n.normalize (n.normalize raw) = n.normalize raw := by
  intro n
  have h : n.Settled := settled_ofTables junk ((AliasTable.folded_ofGroups language world).foldl_merge more)
  have hfixed (s) (hs : n.IsCanonical s) : n.normalize s = s := normalize_of_isCanonical h hs
  refine ⟨fun s => ⟨?_, fun hs => ⟨s, hfixed s hs⟩⟩, fun s => ⟨fun hs => ?_, hfixed s⟩, fun raw => ?_⟩
  · rintro ⟨raw, rfl⟩
    exact isCanonical_normalize h raw
  · rw [← hs]
    exact isCanonical_normalize h s
  · exact hfixed _ (isCanonical_normalize h raw)

/-! ### Aliases and their roots -/

theorem tokens_append_space (s t : String) : n.tokens (s ++ " " ++ t) = n.tokens s ++ n.tokens t := by
  rw [tokens, lowercase_append_space, words_append_space, List.flatMap_append, tokens, tokens]

theorem tokens_alias (h : n.Settled) {t root : String} (hget : n.aliases.get? t = some root) :
    n.tokens t = n.rewrite t := by
  have hfolded := h.folded.get? hget
  rw [tokens, hfolded.lowercase_word, words_of_isWord hfolded.isWord_word]
  simp

theorem tokens_root (h : n.Settled) {t root : String} (hget : n.aliases.get? t = some root) :
    n.tokens root = words root := by
  rw [tokens, (h.folded.get? hget).lowercase_root, flatMap_rewrite_of_isPlain (h.plain t root hget)]

/-- A kept alias stands for its root in every command, unless it is junk and counts for nothing. -/
theorem normalize_alias_eq_normalize_root (junk : List String) (language world : List AliasGroup) (t root : String)
    (kept : (ofTables junk (.ofGroups language world)).aliases.get? t = some root) (p q : String) :
    let n := ofTables junk (.ofGroups language world)
    (n.isJunk t = false → n.normalize (p ++ " " ++ t ++ " " ++ q) = n.normalize (p ++ " " ++ root ++ " " ++ q)) ∧
      (n.isJunk t = true → n.normalize (p ++ " " ++ t ++ " " ++ q) = n.normalize (p ++ " " ++ q)) := by
  intro n
  have h : n.Settled := settled_ofTables junk (AliasTable.folded_ofGroups language world)
  have halias : n.tokens t = n.rewrite t := tokens_alias h kept
  simp only [normalize_eq_joinSpaces_tokens h, tokens_append_space, halias, rewrite]
  constructor
  · intro hjunk
    have hresolve : n.aliases.resolve t = root := by rw [AliasTable.resolve, kept, Option.getD_some]
    rw [if_neg (by simp [hjunk]), hresolve, tokens_root h kept]
  · intro hjunk
    rw [if_pos hjunk, List.append_nil]

/-- In "please knock now" the alias "knock" stands for "open-door", unless it is junk. -/
theorem normalize_alias_eq_normalize_root_knock :
    let groups : List AliasGroup := [⟨"open-door", ["knock"]⟩]
    let n := ofTables ["the"] (.ofGroups [] groups)
    let deaf := ofTables ["knock"] (.ofGroups [] groups)
    n.aliases.get? "knock" = some "open-door" ∧ n.isJunk "knock" = false ∧
      n.normalize ("please" ++ " " ++ "knock" ++ " " ++ "now") =
        n.normalize ("please" ++ " " ++ "open-door" ++ " " ++ "now") ∧
      deaf.aliases.get? "knock" = some "open-door" ∧ deaf.isJunk "knock" = true ∧
      deaf.normalize ("please" ++ " " ++ "knock" ++ " " ++ "now") = deaf.normalize ("please" ++ " " ++ "now") := by
  intro groups n deaf
  have kept : n.aliases.get? "knock" = some "open-door" := by decide +kernel
  have heard : n.isJunk "knock" = false := by decide +kernel
  have kept' : deaf.aliases.get? "knock" = some "open-door" := by decide +kernel
  have ignored : deaf.isJunk "knock" = true := by decide +kernel
  exact ⟨kept, heard, (normalize_alias_eq_normalize_root _ _ _ _ _ kept "please" "now").1 heard,
    kept', ignored, (normalize_alias_eq_normalize_root _ _ _ _ _ kept' "please" "now").2 ignored⟩

end Normalizer
end TextAdventure
