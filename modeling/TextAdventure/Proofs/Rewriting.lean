import TextAdventure.Proofs.LetterCase
import TextAdventure.Proofs.NormalForm
import TextAdventure.Proofs.Runs

/-! The normal form of a command in one pass over its words. The words of the text in lowercase are gone through once,
    each is dropped, replaced or kept by itself (`OnePass`), and the result stands in a row
    (`normalize_eq_iff_onePass`): no word is looked for across a gap, none sticks to its neighbour, and none comes
    twice or in another place. -/

namespace TextAdventure
open Text

/-- The word is one of the junk words, which are trimmed and put in lowercase. Blank ones count for nothing. -/
def JunkIn (junk : List String) (w : String) : Prop := ∃ entry ∈ junk, allBlank entry = false ∧ fold entry = w

/-- The words of a command, gone through from left to right, make up these words: junk is dropped, an alias makes room
    for the words of its root, and any other word stays. -/
inductive OnePass (junk : List String) (aliases : AliasTable) : List String → List String → Prop
  | done : OnePass junk aliases [] []
  | dropped {w : String} {ws out : List String} (isJunk : JunkIn junk w) (later : OnePass junk aliases ws out) :
      OnePass junk aliases (w :: ws) out
  | replaced {w root : String} {ws image out : List String} (notJunk : ¬JunkIn junk w)
      (bound : aliases.get? w = some root) (root_words : HasWords root image) (later : OnePass junk aliases ws out) :
      OnePass junk aliases (w :: ws) (image ++ out)
  | kept {w : String} {ws out : List String} (notJunk : ¬JunkIn junk w) (unbound : aliases.get? w = none)
      (later : OnePass junk aliases ws out) : OnePass junk aliases (w :: ws) (w :: out)

namespace Normalizer

theorem isJunk_ofTables_iff {junk : List String} {table : AliasTable} {w : String} :
    (ofTables junk table).isJunk w = true ↔ JunkIn junk w := by
  have entries : (ofTables junk table).junk = (junk.map fold).filter (· != "") := rfl
  rw [isJunk, entries, List.contains_iff_mem, List.mem_filter, List.mem_map]
  constructor
  · rintro ⟨⟨entry, listed, rfl⟩, visible⟩
    refine ⟨entry, listed, ?_, rfl⟩
    rw [← Bool.not_eq_true, ← fold_eq_empty_iff]
    simpa using visible
  · rintro ⟨entry, listed, visible, rfl⟩
    refine ⟨⟨entry, listed, rfl⟩, ?_⟩
    rw [← Bool.not_eq_true, ← fold_eq_empty_iff] at visible
    simpa using visible

section
variable {junk : List String} {table : AliasTable}

/-- What one pass makes of some words is what each of them is rewritten to. -/
theorem onePass_iff {ws out : List String} (read : ∀ w ∈ ws, Text.isWord w = true) :
    OnePass junk (ofTables junk table).aliases ws out ↔ ws.flatMap (ofTables junk table).rewrite = out := by
  constructor
  · intro pass
    induction pass with
    | done => rfl
    | dropped isJunk _ ih =>
      rw [List.flatMap_cons, ih (List.forall_mem_cons.mp read).2, rewrite, if_pos (isJunk_ofTables_iff.mpr isJunk),
        List.nil_append]
    | replaced notJunk bound root_words _ ih =>
      rw [List.flatMap_cons, ih (List.forall_mem_cons.mp read).2, rewrite,
        if_neg (isJunk_ofTables_iff.not.mpr notJunk), AliasTable.resolve, bound, Option.getD_some,
        hasWords_iff.mp root_words]
    | kept notJunk unbound _ ih =>
      obtain ⟨first, others⟩ := List.forall_mem_cons.mp read
      rw [List.flatMap_cons, ih others, rewrite, if_neg (isJunk_ofTables_iff.not.mpr notJunk), AliasTable.resolve,
        unbound, Option.getD_none, words_of_isWord first, List.singleton_append]
  · rintro rfl
    induction ws with
    | nil => exact .done
    | cons w ws ih =>
      obtain ⟨first, others⟩ := List.forall_mem_cons.mp read
      have later := ih others
      rw [List.flatMap_cons, rewrite]
      split
      · next isJunk => exact .dropped (isJunk_ofTables_iff.mp isJunk) later
      · next notJunk =>
        have notJunk := isJunk_ofTables_iff.not.mp notJunk
        cases bound : (ofTables junk table).aliases.get? w with
        | none =>
          rw [AliasTable.resolve, bound, Option.getD_none, words_of_isWord first]
          exact .kept notJunk bound later
        | some root =>
          rw [AliasTable.resolve, bound, Option.getD_some]
          exact .replaced notJunk bound (hasWords_iff.mpr rfl) later

end

/-- Whatever the junk words and the alias groups of a language, a world and later merges are, the normal form of a text
    is what one pass over the words of the text in lowercase makes of them, in a row with single spaces. Its words are
    just these. -/
theorem normalize_eq_iff_onePass (junk : List String) (language world : List AliasGroup)
    (more : List (List AliasGroup)) (raw s : String) :
    let n := ofTables junk (more.foldl AliasTable.merge (.ofGroups language world))
    n.normalize raw = s ↔ ∃ ws out, HasWords (lowercase raw) ws ∧ OnePass junk n.aliases ws out ∧
      s = joinSpaces out ∧ HasWords s out := by
  intro n
  have settled : n.Settled := settled_ofTables junk ((AliasTable.folded_ofGroups language world).foldl_merge more)
  have read : ∀ w ∈ words (lowercase raw), Text.isWord w = true := fun w member => (mem_words member).1
  rw [normalize_eq_joinSpaces_tokens settled]
  constructor
  · rintro rfl
    refine ⟨words (lowercase raw), n.tokens raw, hasWords_iff.mpr rfl, (onePass_iff read).mpr rfl, rfl, ?_⟩
    exact hasWords_iff.mpr (words_joinSpaces_of_isWord fun t member => (isPlain_of_mem_tokens settled member).1.isWord)
  · rintro ⟨ws, out, here, pass, rfl, -⟩
    obtain rfl := hasWords_iff.mp here
    rw [tokens, (onePass_iff read).mp pass]

end Normalizer
end TextAdventure
