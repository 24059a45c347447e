import TextAdventure.Proofs.Rewriting
import Mathlib.Data.Set.Card

/-! What alias tables bind. A word stands for the root with which it was written last, and the pairs that are not made
    of a single word count for nothing (`AliasTable.get?_merge_empty`). A normalizer keeps an alias if no word of its
    root is junk or bound in the whole table, whatever becomes of the other aliases, so it does not matter in which
    order they are looked at (`AliasTable.prune_eq`). -/

namespace TextAdventure
open Text

/-! ### What authors write -/

/-- The roots and the words that stand for them, pair by pair as they are written. -/
def AliasGroup.pairs (groups : List AliasGroup) : List (String × String) :=
  groups.flatMap fun group => group.aliases.map fun word => (group.root, word)

/-- Of the pairs for this word, trimmed and in lowercase, the last has this root, trimmed and in lowercase. -/
def LastBinds (pairs : List (String × String)) (word root : String) : Prop :=
  ∃ before pair after, pairs = before ++ pair :: after ∧ fold pair.2 = word ∧ fold pair.1 = root ∧
    ∀ later ∈ after, fold later.2 ≠ word

/-- The alias that a pair makes if it is one. -/
def Alias.ofPair (pair : String × String) : Alias := ⟨fold pair.2, fold pair.1⟩

theorem AliasGroup.entries_eq (groups : List AliasGroup) :
    groups.flatMap AliasGroup.entries = ((AliasGroup.pairs groups).map Alias.ofPair).filter fun a => isWord a.word := by
  induction groups with
  | nil => rfl
  | cons group groups ih =>
    have first : group.entries = ((group.aliases.map fun word => (group.root, word)).map Alias.ofPair).filter
        fun a => isWord a.word := by
      rw [AliasGroup.entries, List.map_map, List.filter_map, List.filter_map, List.map_map]
      rfl
    rw [List.flatMap_cons, ih, first, ← List.filter_append, ← List.map_append]
    rfl

theorem findRev?_eq_some_iff {α : Type} {p : α → Bool} {xs : List α} {x : α} :
    xs.findRev? p = some x ↔ p x = true ∧ ∃ before after, xs = before ++ x :: after ∧ ∀ y ∈ after, p y = false := by
  rw [List.findRev?_eq_find?_reverse, List.find?_eq_some_iff_append]
  refine and_congr_right fun _ => ⟨?_, ?_⟩
  · rintro ⟨later, earlier, split, none⟩
    refine ⟨earlier.reverse, later.reverse, ?_, fun y member => ?_⟩
    · rw [← List.reverse_reverse xs, split]
      simp
    · simpa using none y (List.mem_reverse.mp member)
  · rintro ⟨before, after, rfl, none⟩
    refine ⟨after.reverse, before.reverse, by simp, fun y member => ?_⟩
    simpa using none y (List.mem_reverse.mp member)

namespace AliasTable

/-! ### Tables as they are built -/

theorem merge_append (table : AliasTable) (groups more : List AliasGroup) :
    table.merge (groups ++ more) = (table.merge groups).merge more := by
  simp only [merge, List.flatMap_append, Catalog.insertAll, List.foldl_append]

theorem ofGroups_eq (language world : List AliasGroup) : ofGroups language world = empty.merge (language ++ world) :=
  (merge_append empty language world).symm

/-- A word is bound if it is one, to the root with which it comes last. -/
theorem get?_merge_empty {groups : List AliasGroup} {word root : String} :
    (empty.merge groups).get? word = some root ↔ isWord word = true ∧ LastBinds (AliasGroup.pairs groups) word root := by
  have found : (empty.merge groups).get? word =
      ((AliasGroup.pairs groups).findRev? fun pair => isWord (fold pair.2) && fold pair.2 == word).map
        fun pair => fold pair.1 := by
    have roots : Alias.root ∘ Alias.ofPair = fun pair => fold pair.1 := by
      funext pair
      rw [Function.comp_apply, Alias.ofPair]
    have tests : (fun a => isWord a.word && a.word == word) ∘ Alias.ofPair =
        fun pair => isWord (fold pair.2) && fold pair.2 == word := by
      funext pair
      rw [Function.comp_apply, Alias.ofPair]
    rw [get?, merge, AliasGroup.entries_eq, Catalog.get?_insertAll, empty, Catalog.get?_empty, Option.or_none,
      List.findRev?_eq_find?_reverse, ← List.filter_reverse, List.find?_filter, ← List.map_reverse, List.find?_map,
      Option.map_map, List.findRev?_eq_find?_reverse]
    simp only [Bool.decide_and, Bool.decide_eq_true, roots, tests]
  rw [found, Option.map_eq_some_iff]
  constructor
  · rintro ⟨pair, last, rfl⟩
    obtain ⟨here, before, after, split, none⟩ := findRev?_eq_some_iff.mp last
    obtain ⟨isWord, same⟩ := Bool.and_eq_true _ _ ▸ here
    obtain rfl := beq_iff_eq.mp same
    refine ⟨isWord, before, pair, after, split, rfl, rfl, fun later member again => ?_⟩
    have := none later member
    simp [again, isWord] at this
  · rintro ⟨isWord, before, pair, after, split, rfl, rfl, none⟩
    refine ⟨pair, findRev?_eq_some_iff.mpr ⟨by simp [isWord], before, after, split, fun later member => ?_⟩, rfl⟩
    simp [none later member]

/-- There are as many aliases as bound words. -/
theorem size_eq_ncard (table : AliasTable) : table.size = {word | ∃ root, table.get? word = some root}.ncard := by
  have bound : {word | ∃ root, table.get? word = some root} = ((table.entries.values.map Alias.word).toFinset : Set String) := by
    ext word
    simp only [Set.mem_ofPred_eq, List.coe_toFinset, List.mem_map, get?_eq_some_iff]
    constructor
    · rintro ⟨root, member⟩
      exact ⟨_, member, rfl⟩
    · rintro ⟨⟨_, root⟩, member, rfl⟩
      exact ⟨root, member⟩
  rw [bound, Set.ncard_coe_finset, List.toFinset_card_of_nodup table.entries.nodup_keys, List.length_map, size, Catalog.size]

/-! ### Aliases that are kept -/

/-- The table after its aliases have been looked at in this order, and each with a root that is not stable under the
    whole table has been taken out. -/
def prune (table : AliasTable) (junk : List String) (order : List Alias) : AliasTable :=
  ⟨order.foldl (fun kept a => if Normalizer.isStable junk table a.root then kept else kept.erase a.word) table.entries⟩

theorem get?_foldl_erase {entries : Catalog Alias.word} (stable : Alias → Bool) (order : List Alias) (word : String) :
    (order.foldl (fun kept a => if stable a then kept else kept.erase a.word) entries).get? word =
      if order.any (fun a => !stable a && a.word == word) then none else entries.get? word := by
  induction order generalizing entries with
  | nil => simp
  | cons a order ih =>
    rw [List.foldl_cons, ih, List.any_cons]
    by_cases later : order.any (fun a => !stable a && a.word == word) = true
    · simp [later]
    · by_cases stays : stable a = true
      · simp [later, stays]
      · by_cases same : a.word = word <;> simp [later, stays, same]

/-- The aliases may be looked at in any order: those with a stable root are left. -/
theorem prune_eq {table : AliasTable} {junk : List String} {order : List Alias} (all : order.Perm table.entries.values) :
    table.prune junk order = table.filter fun a => Normalizer.isStable junk table a.root := by
  refine congrArg AliasTable.mk (Catalog.ext_get? fun word => ?_)
  rw [get?_foldl_erase fun a => Normalizer.isStable junk table a.root, Catalog.get?_filter]
  cases bound : table.entries.get? word with
  | none => split <;> rfl
  | some a =>
    obtain ⟨member, rfl⟩ := Catalog.get?_eq_some_iff.mp bound
    -- Of the aliases that are looked at, this is the only one with its word.
    have alone : order.any (fun b => !Normalizer.isStable junk table b.root && b.word == a.word) =
        !Normalizer.isStable junk table a.root := by
      rw [Bool.eq_iff_iff, List.any_eq_true]
      constructor
      · rintro ⟨b, listed, test⟩
        obtain ⟨unstable, same⟩ := Bool.and_eq_true _ _ ▸ test
        have again := Catalog.get?_eq_some_iff.mpr ⟨all.mem_iff.mp listed, beq_iff_eq.mp same⟩
        obtain rfl := Option.some.inj (again.symm.trans bound)
        exact unstable
      · exact fun unstable => ⟨a, all.mem_iff.mpr member, by simpa using unstable⟩
    rw [alone, Option.filter_some]
    cases Normalizer.isStable junk table a.root <;> rfl

end AliasTable

namespace Normalizer

theorem isStable_iff {junk : List String} {table : AliasTable} {root : String} :
    isStable (ofTables junk table).junk table root = true ↔
      ∀ w ∈ words root, ¬JunkIn junk w ∧ table.get? w = none := by
  rw [isStable, List.all_eq_true]
  refine forall₂_congr fun w _ => ?_
  rw [Bool.and_eq_true, Bool.not_eq_true', Bool.not_eq_true', ← isJunk, ← Bool.not_eq_true, isJunk_ofTables_iff,
    AliasTable.contains_eq_isSome_get?, Option.isSome_eq_false_iff, Option.isNone_iff_eq_none]

end Normalizer

namespace AliasTable

/-- A table binds just the single words that are written for some root, each to the root with which it is written last,
    the language's pairs coming before the world's; further groups come after these. A normalizer keeps an alias, with
    its root, if no word of the root is junk or bound in the table, and in whatever order it looks at the aliases. -/
theorem binds_last_written (language world : List AliasGroup) :
    let table := ofGroups language world
    let Bound := fun word root => isWord word = true ∧ LastBinds (AliasGroup.pairs (language ++ world)) word root
    (∀ word root, table.get? word = some root ↔ Bound word root) ∧
      table.size = {word | ∃ root, Bound word root}.ncard ∧
      (∀ more, table.merge more = ofGroups language (world ++ more)) ∧
      ∀ junk, let n := Normalizer.ofTables junk table
        (∀ word root, n.aliases.get? word = some root ↔
          table.get? word = some root ∧ ∀ w ∈ words root, ¬JunkIn junk w ∧ table.get? w = none) ∧
        ∀ order, order.Perm table.entries.values → table.prune n.junk order = n.aliases := by
  intro table Bound
  have binds : ∀ word root, table.get? word = some root ↔ Bound word root := fun word root => by
    rw [show table = empty.merge (language ++ world) from ofGroups_eq language world, get?_merge_empty]
  refine ⟨binds, ?_, fun more => ?_, fun junk => ⟨fun word root => ?_, fun order all => prune_eq all⟩⟩
  · simp only [size_eq_ncard, binds]
  · calc table.merge more = (empty.merge (language ++ world)).merge more := by rw [← ofGroups_eq]
      _ = empty.merge (language ++ (world ++ more)) := by rw [← merge_append, List.append_assoc]
      _ = ofGroups language (world ++ more) := (ofGroups_eq language (world ++ more)).symm
  · rw [Normalizer.get?_aliases_ofTables, Normalizer.isStable_iff]

/-- The world gives "get" another root than the language does. What stands for "pick up" is not kept where "up" is
    junk, whichever alias is looked at first. -/
theorem binds_last_written_get :
    let language : List AliasGroup := [⟨"take", ["get", "GRAB "]⟩]
    let world : List AliasGroup := [⟨" Fetch", ["get"]⟩, ⟨"pick up", ["lift", "pick at"]⟩]
    let table := ofGroups language world
    let n := Normalizer.ofTables ["Up"] table
    let order := table.entries.values.reverse
    table.get? "get" = some "fetch" ∧ table.get? "lift" = some "pick up" ∧ n.aliases.get? "lift" = none ∧
      order.Perm table.entries.values ∧ table.prune n.junk order = n.aliases := by
  intro language world table n order
  obtain ⟨binds, -, -, keeps⟩ := binds_last_written language world
  obtain ⟨kept, anyOrder⟩ := keeps ["Up"]
  have get : table.get? "get" = some "fetch" := by
    refine (binds "get" "fetch").mpr ⟨by decide +kernel, [("take", "get"), ("take", "GRAB ")], (" Fetch", "get"),
      [("pick up", "lift"), ("pick up", "pick at")], rfl, by decide +kernel, by decide +kernel, ?_⟩
    decide +kernel
  have lift : table.get? "lift" = some "pick up" := by
    refine (binds "lift" "pick up").mpr ⟨by decide +kernel, [("take", "get"), ("take", "GRAB "), (" Fetch", "get")],
      ("pick up", "lift"), [("pick up", "pick at")], rfl, by decide +kernel, by decide +kernel, ?_⟩
    decide +kernel
  have perm : order.Perm table.entries.values := List.reverse_perm _
  refine ⟨get, lift, ?_, perm, anyOrder order perm⟩
  rw [Option.eq_none_iff_forall_ne_some]
  intro root found
  obtain ⟨bound, stable⟩ := (kept "lift" root).mp found
  obtain rfl : "pick up" = root := Option.some.inj (lift.symm.trans bound)
  exact (stable "up" (by decide +kernel)).1 ⟨"Up", by simp, by decide, by decide +kernel⟩

end AliasTable
end TextAdventure
