import TextAdventure.Play.Output

/-! Which blocks an output shows. What is kept of some calls to an output can be told from the calls alone (`Output.Kept`):
    those with a visible text, in order, but of the lines of exits only the last, in its own place. This is what a new
    output shows after the calls. An output that has shown something before keeps it in front, except that a new line of
    exits takes away the old one (`Output.blocks_writeAll`). So there is never more than one line of exits, and titles and
    narrated texts only pile up (`Output.keeps_last_exits`). -/

namespace TextAdventure
open Text

/-- The text of the block is not blank. -/
def Block.isVisible (b : Block) : Bool := !allBlank b.line

/-- The block is a line of exits that takes the place of an earlier one. -/
def Block.isNewExits (b : Block) : Bool := b.isVisible && b.isExits

/-- The block is a title or a narrated text that is shown. -/
def Block.isNarration (b : Block) : Bool := b.isVisible && !b.isExits

theorem Block.isVisible_exits {line : String} (visible : allBlank line = false) : (Block.exits line).isVisible = true := by
  rw [isVisible, Block.line, visible, Bool.not_false]

namespace Output

/-- The output after a call, which is given by the block that it asks for. -/
def write (o : Output) : Block → Output
  | .title text => o.title text
  | .text text => o.say text
  | .exits text => o.setExits text

/-- The output after some calls, one after the other. -/
def writeAll (o : Output) (calls : List Block) : Output := calls.foldl write o

/-- Of these calls these blocks are kept. -/
inductive Kept : List Block → List Block → Prop where
  /-- Where no line of exits is visible, all calls that are visible. -/
  | unlisted {calls : List Block} (none : ∀ c ∈ calls, c.isNewExits = false) : Kept calls (calls.filter Block.isVisible)
  /-- The last visible line of exits, with the visible titles and texts before it and all that is visible after it. -/
  | listed {before after : List Block} {line : String} (visible : allBlank line = false)
      (last : ∀ c ∈ after, c.isNewExits = false) :
      Kept (before ++ .exits line :: after) (before.filter Block.isNarration ++ .exits line :: after.filter Block.isVisible)

variable {calls blocks before after : List Block} {line : String}

/-! ### What some calls add -/

theorem blocks_write (o : Output) (c : Block) :
    (o.write c).blocks =
      if c.isVisible then (if c.isExits then o.blocks.filter (!·.isExits) else o.blocks) ++ [c] else o.blocks := by
  cases c with
  | title text | text text | exits text =>
    cases blank : allBlank text <;>
      simp [write, title, say, setExits, Block.isVisible, Block.line, Block.isExits, blank]

theorem writeAll_cons (o : Output) (c : Block) (calls : List Block) :
    o.writeAll (c :: calls) = (o.write c).writeAll calls := rfl

theorem writeAll_append (o : Output) (calls more : List Block) :
    o.writeAll (calls ++ more) = (o.writeAll calls).writeAll more := List.foldl_append

/-- Without a new line of exits nothing is taken away. -/
theorem blocks_writeAll_of_unlisted (none : ∀ c ∈ calls, c.isNewExits = false) (o : Output) :
    (o.writeAll calls).blocks = o.blocks ++ calls.filter Block.isVisible := by
  induction calls generalizing o with
  | nil => simp [writeAll]
  | cons c calls ih =>
    obtain ⟨first, others⟩ := List.forall_mem_cons.mp none
    rw [writeAll_cons, ih others, blocks_write]
    cases visible : c.isVisible with
    | false => simp [visible]
    | true =>
      have told : c.isExits = false := by simpa [Block.isNewExits, visible] using first
      simp [visible, told]

/-- Titles and narrated texts pile up, whatever becomes of the lines of exits. -/
theorem narration_writeAll (o : Output) (calls : List Block) :
    (o.writeAll calls).blocks.filter (!·.isExits) = o.blocks.filter (!·.isExits) ++ calls.filter Block.isNarration := by
  induction calls generalizing o with
  | nil => simp [writeAll]
  | cons c calls ih =>
    rw [writeAll_cons, ih, blocks_write]
    cases visible : c.isVisible <;> cases listed : c.isExits <;> simp [Block.isNarration, visible, listed]

/-- The last new line of exits takes those before it away, and with them nothing else. -/
theorem blocks_writeAll_of_listed (visible : allBlank line = false) (last : ∀ c ∈ after, c.isNewExits = false) (o : Output) :
    (o.writeAll (before ++ .exits line :: after)).blocks = o.blocks.filter (!·.isExits) ++
      (before.filter Block.isNarration ++ .exits line :: after.filter Block.isVisible) := by
  have shown : (Block.exits line).isVisible = true := Block.isVisible_exits visible
  have listed : (Block.exits line).isExits = true := rfl
  -- Of what is shown before the line only the lines of exits are not known, and it takes these away.
  rw [writeAll_append, writeAll_cons, blocks_writeAll_of_unlisted last, blocks_write, if_pos shown, if_pos listed,
    narration_writeAll, List.append_assoc, List.append_assoc, List.singleton_append]

/-- After some calls an output shows what is kept of them, behind what it has shown before. Only a new line of exits takes
    something of this away. -/
theorem blocks_writeAll (kept : Kept calls blocks) (o : Output) :
    (o.writeAll calls).blocks = (if calls.any Block.isNewExits then o.blocks.filter (!·.isExits) else o.blocks) ++ blocks := by
  cases kept with
  | unlisted none => rw [blocks_writeAll_of_unlisted none, if_neg (by simpa using none)]
  | listed visible last =>
    rw [blocks_writeAll_of_listed visible last, if_pos]
    simp [Block.isNewExits, Block.isVisible_exits visible, Block.isExits]

/-! ### What is kept -/

theorem exists_kept (calls : List Block) : ∃ blocks, Kept calls blocks := by
  induction calls with
  | nil => exact ⟨[], .unlisted (List.forall_mem_nil _)⟩
  | cons c calls ih =>
    obtain ⟨blocks, kept⟩ := ih
    -- A line of exits in front counts only if none behind it does.
    cases kept with
    | @listed before _ _ visible last => exact ⟨_, @Kept.listed (c :: before) _ _ visible last⟩
    | unlisted none =>
      cases new : c.isNewExits with
      | false => exact ⟨_, .unlisted (List.forall_mem_cons.mpr ⟨new, none⟩)⟩
      | true =>
        obtain ⟨visible, listed⟩ := Bool.and_eq_true _ _ ▸ new
        cases c with
        | exits line => exact ⟨_, @Kept.listed [] _ _ (by simpa [Block.isVisible, Block.line] using visible) none⟩
        | title | text => cases listed

theorem Kept.eq_blocks (kept : Kept calls blocks) : blocks = (({} : Output).writeAll calls).blocks := by
  have before : (({} : Output).blocks.filter (!·.isExits)) = [] := rfl
  rw [blocks_writeAll kept, before, ite_self, List.nil_append]

/-- A new output shows exactly what is kept of the calls. -/
theorem kept_iff : Kept calls blocks ↔ blocks = (({} : Output).writeAll calls).blocks := by
  refine ⟨Kept.eq_blocks, ?_⟩
  rintro rfl
  obtain ⟨blocks, kept⟩ := exists_kept calls
  exact kept.eq_blocks ▸ kept

theorem Kept.isVisible (kept : Kept calls blocks) {b : Block} (member : b ∈ blocks) : b.isVisible = true := by
  cases kept with
  | unlisted none => exact (List.mem_filter.mp member).2
  | listed visible last =>
    rcases List.mem_append.mp member with earlier | here
    · have told : b.isNarration = true := (List.mem_filter.mp earlier).2
      exact (Bool.and_eq_true _ _ ▸ told).1
    · rcases List.mem_cons.mp here with rfl | later
      · exact Block.isVisible_exits visible
      · exact (List.mem_filter.mp later).2

theorem countP_isExits_of_unlisted (none : ∀ c ∈ calls, c.isNewExits = false) :
    (calls.filter Block.isVisible).countP Block.isExits = 0 := by
  refine List.countP_eq_zero.mpr fun c member listed => ?_
  obtain ⟨called, visible⟩ := List.mem_filter.mp member
  have old := none c called
  rw [Block.isNewExits, visible, listed] at old
  cases old

theorem countP_isExits_narration (calls : List Block) : (calls.filter Block.isNarration).countP Block.isExits = 0 := by
  refine List.countP_eq_zero.mpr fun c member listed => ?_
  have told : c.isNarration = true := (List.mem_filter.mp member).2
  rw [Block.isNarration, listed, Bool.not_true, Bool.and_false] at told
  cases told

theorem Kept.countP_isExits_le_one (kept : Kept calls blocks) : blocks.countP Block.isExits ≤ 1 := by
  cases kept with
  | unlisted none =>
    rw [countP_isExits_of_unlisted none]
    exact Nat.zero_le 1
  | listed visible last =>
    refine Nat.le_of_eq ?_
    rw [List.countP_append, countP_isExits_narration, List.countP_cons_of_pos rfl, countP_isExits_of_unlisted last,
      Nat.zero_add, Nat.zero_add]

/-- A line of exits that is kept was called for, and what was told before the call stands in front of it. -/
theorem Kept.around_exits (kept : Kept calls blocks) (member : .exits line ∈ blocks) :
    ∃ before after, calls = before ++ .exits line :: after ∧ (∀ c ∈ after, c.isNewExits = false) ∧
      blocks = before.filter Block.isNarration ++ .exits line :: after.filter Block.isVisible := by
  cases kept with
  | unlisted none => exact absurd rfl (List.countP_eq_zero.mp (countP_isExits_of_unlisted none) _ member)
  | @listed before after _ visible last =>
    rcases List.mem_append.mp member with earlier | here
    · exact absurd rfl (List.countP_eq_zero.mp (countP_isExits_narration before) _ earlier)
    · rcases List.mem_cons.mp here with same | later
      · obtain rfl := Block.exits.inj same
        exact ⟨before, after, rfl, last, rfl⟩
      · exact absurd rfl (List.countP_eq_zero.mp (countP_isExits_of_unlisted last) _ later)

/-- Whatever is called of a new output, in any order, it shows what is kept of the calls: the visible ones in order, but of
    the lines of exits only the last, in its place. So it never shows two lines of exits or a blank block; further calls
    only add to it, but for a line of exits that a new one takes away; and everything told before the line of exits that
    is shown stands in front of it. -/
theorem keeps_last_exits (calls : List Block) :
    let shown (written : List Block) : List Block := (({} : Output).writeAll written).blocks
    (∀ blocks, Kept calls blocks ↔ blocks = shown calls) ∧
      (shown calls).countP Block.isExits ≤ 1 ∧
      (∀ b ∈ shown calls, allBlank b.line = false) ∧
      (∀ more, ∃ added, Kept more added ∧
        shown (calls ++ more) =
          (if more.any Block.isNewExits then (shown calls).filter (!·.isExits) else shown calls) ++ added) ∧
      ∀ line, .exits line ∈ shown calls →
        ∃ before after, calls = before ++ .exits line :: after ∧ (∀ c ∈ after, c.isNewExits = false) ∧
          shown calls = before.filter Block.isNarration ++ .exits line :: after.filter Block.isVisible := by
  intro shown
  have kept : Kept calls (shown calls) := kept_iff.mpr rfl
  refine ⟨fun blocks => kept_iff, kept.countP_isExits_le_one, fun b member => ?_, fun more => ?_, fun line listed => ?_⟩
  · simpa [Block.isVisible] using kept.isVisible member
  · obtain ⟨added, later⟩ := exists_kept more
    exact ⟨added, later, by rw [← blocks_writeAll later, ← writeAll_append]⟩
  · exact kept.around_exits listed

example :
    (({} : Output).writeAll [.title "Hall", .exits "Exits: n", .text "A gate\n opens.", .exits "Exits: n, s", .exits " ",
        .text "\t", .text "You hear steps."]).blocks =
      [.title "Hall", .text "A gate\n opens.", .exits "Exits: n, s", .text "You hear steps."] := by decide

end Output
end TextAdventure
