import TextAdventure.Proofs.Bindings
import TextAdventure.Proofs.Movement
import TextAdventure.Proofs.TableOrder

/-! Dead ends. In a room without exits a command is answered by the farewell or by the reply that the player is trapped,
    and nothing else is asked: whatever the player types, the session stays as it is (`Session.trapped_for_good`). That a
    command leaves the game is seen from its normal form. So junk words and aliases may take the two words that leave the
    game from the player, and then nothing that the player types leaves a dead end (`Session.leaves_dead_end_iff`). -/

namespace TextAdventure
open Text

/-! ### Words that normalizing leaves alone -/

namespace Normalizer
variable {n : Normalizer} {word : String}

theorem isCanonical_word_iff (isWord : isWord word = true) (small : lowercase word = word) :
    n.IsCanonical word ↔ n.IsPlain word := by
  constructor
  · rintro ⟨-, tokens, row, plain⟩
    have alone : tokens = [word] := by
      rw [← words_joinSpaces_of_isWord fun t member => (plain t member).isWord, ← row, words_of_isWord isWord]
    exact plain word (by simp [alone])
  · intro plain
    refine ⟨small, [word], ?_, by simpa using plain⟩
    rw [joinSpaces, String.intercalate_singleton]

/-- A word in lowercase is the normal form of some text exactly if it is neither junk nor a kept alias. -/
theorem exists_normalize_eq_word_iff (settled : n.Settled) (isWord : isWord word = true) (small : lowercase word = word) :
    (∃ raw, n.normalize raw = word) ↔ n.IsPlain word := by
  rw [← isCanonical_word_iff isWord small]
  constructor
  · rintro ⟨raw, normal⟩
    exact normal ▸ isCanonical_normalize settled raw
  · exact fun canonical => ⟨word, normalize_of_isCanonical settled canonical⟩

/-- A word that neither a junk word nor an alias is folded to is left alone. -/
theorem isPlain_ofTables {junk : List String} {language world : List AliasGroup} (isWord : isWord word = true)
    (kept : ∀ text ∈ junk, fold text ≠ word)
    (unbound : ∀ group ∈ language ++ world, ∀ text ∈ group.aliases, fold text ≠ word) :
    (ofTables junk (.ofGroups language world)).IsPlain word where
  isWord := isWord
  not_junk := by
    rw [← Bool.not_eq_true, isJunk_ofTables_iff]
    rintro ⟨text, listed, -, same⟩
    exact kept text listed same
  not_alias := by
    rw [Option.eq_none_iff_forall_ne_some]
    intro root found
    have bound := (get?_aliases_ofTables.mp found).1
    rw [AliasTable.ofGroups_eq, AliasTable.get?_merge_empty] at bound
    obtain ⟨-, before, pair, after, split, same, -, -⟩ := bound
    have written : pair ∈ AliasGroup.pairs (language ++ world) := by
      rw [split]
      exact List.mem_append_right before List.mem_cons_self
    obtain ⟨group, declared, pairs⟩ := List.mem_flatMap.mp written
    obtain ⟨text, listed, rfl⟩ := List.mem_map.mp pairs
    exact unbound group declared text listed same

end Normalizer

/-! ### Commands in a room without exits -/

namespace Game
variable {g : Game} {room : Room} {n : String} {s : State}

theorem claimant_of_deadEnd (deadEnd : room.exits = []) :
    g.claimant room n s = if n = "quit" ∨ n = "exit" then .quit else .trap := by
  rw [claimant, candidates, if_pos deadEnd]
  split
  · next leaves => rw [first?_cons_of_claims (c := .quit) leaves, Option.getD_some]
  · next stays =>
    rw [first?_cons_of_not_claims (c := .quit) stays, first?_cons_of_claims claims_trap, Option.getD_some]

theorem handle_of_deadEnd (here : g.world.room? s.here = some room) (deadEnd : room.exits = []) (raw : String) :
    g.handle raw s =
      if g.normalizer.normalize raw = "quit" ∨ g.normalizer.normalize raw = "exit" then (s.say "Goodbye.", true)
      else (s.say "You are trapped!", false) := by
  rw [handle_eq_answer here, claimant_of_deadEnd deadEnd]
  split <;> rfl

/-- With no output left from before, a command shows its reply and leaves the state as it is. -/
theorem step_of_deadEnd (here : g.world.room? s.here = some room) (deadEnd : room.exits = []) (quiet : s.out.blocks = [])
    (raw : String) :
    g.step raw s =
      (s, if g.normalizer.normalize raw = "quit" ∨ g.normalizer.normalize raw = "exit" then
        (⟨[.text "Goodbye."]⟩, true) else (⟨[.text "You are trapped!"]⟩, false)) := by
  have still (text : String) : (s.say text).clearOutput = s := by
    obtain ⟨here, inventory, lying, blocked, ⟨blocks⟩⟩ := s
    cases quiet
    rfl
  have shown (text : String) (visible : allBlank text = false) : (s.say text).out = ⟨[.text text]⟩ := by
    rw [State.say, Output.say, if_neg (by simp [visible]), quiet, List.nil_append]
  rw [step, handle_of_deadEnd here deadEnd]
  by_cases leaves : g.normalizer.normalize raw = "quit" ∨ g.normalizer.normalize raw = "exit"
  · simp only [if_pos leaves, still, shown "Goodbye." (by decide)]
  · simp only [if_neg leaves, still, shown "You are trapped!" (by decide)]

theorem leaves_deadEnd_iff (here : g.world.room? s.here = some room) (deadEnd : room.exits = []) (raw : String) :
    (g.handle raw s).2 = true ↔ g.normalizer.normalize raw = "quit" ∨ g.normalizer.normalize raw = "exit" := by
  rw [handle_of_deadEnd here deadEnd]
  split
  · next leaves => exact iff_of_true rfl leaves
  · next stays => exact iff_of_false Bool.false_ne_true stays

/-- The words that leave the game do so where they are left alone. -/
theorem leaves_deadEnd_of_isPlain (settled : g.normalizer.Settled) (here : g.world.room? s.here = some room)
    (deadEnd : room.exits = []) {word : String} (leaving : word ∈ ["quit", "exit"]) (plain : g.normalizer.IsPlain word) :
    (g.handle word s).2 = true := by
  have small : ∀ word ∈ ["quit", "exit"], lowercase word = word := by decide +kernel
  have canonical := (Normalizer.isCanonical_word_iff plain.isWord (small word leaving)).mpr plain
  rw [leaves_deadEnd_iff here deadEnd, Normalizer.normalize_of_isCanonical settled canonical]
  simpa using leaving

/-- Some command leaves the game from a dead end exactly if one of the two words that do is left alone. -/
theorem exists_leaves_deadEnd_iff (settled : g.normalizer.Settled) (here : g.world.room? s.here = some room)
    (deadEnd : room.exits = []) :
    (∃ raw, (g.handle raw s).2 = true) ↔ g.normalizer.IsPlain "quit" ∨ g.normalizer.IsPlain "exit" := by
  simp only [leaves_deadEnd_iff here deadEnd, exists_or]
  rw [Normalizer.exists_normalize_eq_word_iff settled (by decide +kernel) (by decide +kernel),
    Normalizer.exists_normalize_eq_word_iff settled (by decide +kernel) (by decide +kernel)]

end Game

/-! ### Every run of a session -/

namespace Session
variable {w : World} {language : Language} {session : Session} {room : Room}

/-- In a room without exits and with no output left from before, a session is the same after every command. -/
theorem run_steps_of_deadEnd (here : session.game.world.room? session.state.here = some room) (deadEnd : room.exits = [])
    (quiet : session.state.out.blocks = []) (inputs : List String) : session.run (inputs.map .step) = session := by
  induction inputs with
  | nil => rfl
  | cons raw inputs ih =>
    have still : session.apply (.step raw) = session := by rw [apply, Game.step_of_deadEnd here deadEnd quiet]
    rw [List.map_cons, run_cons, still, ih]

/-- Wherever a session has come, a player who is in a room without exits stays trapped, whatever is typed: each command is
    answered by one line, and only those whose normal form is "quit" or "exit" tell that the player leaves the game. After
    each of them the session is what it was before the first, so the player, the items and the exits are where they were. -/
theorem trapped_for_good (started : start w language = .ok session) (ops : List Operation)
    (here : w.room? (session.run ops).state.here = some room) (deadEnd : room.exits = [])
    (quiet : (session.run ops).state.out.blocks = []) (inputs : List String) :
    let now := session.run ops
    let n (raw : String) := now.game.normalizer.normalize raw
    (∀ typed, typed <+: inputs → now.run (typed.map .step) = now) ∧
      now.replies (inputs.map .step) = inputs.map fun raw =>
        if n raw = "quit" ∨ n raw = "exit" then (⟨[.text "Goodbye."]⟩, true) else (⟨[.text "You are trapped!"]⟩, false) := by
  intro now n
  rw [← world_run_of_start started ops] at here
  refine ⟨fun typed _ => run_steps_of_deadEnd here deadEnd quiet typed, ?_⟩
  have replied (raw : String) : now.reply (.step raw) =
      if n raw = "quit" ∨ n raw = "exit" then (⟨[.text "Goodbye."]⟩, true) else (⟨[.text "You are trapped!"]⟩, false) := by
    rw [reply, Game.step_of_deadEnd here deadEnd quiet]
  have still (raw : String) : now.apply (.step raw) = now := run_steps_of_deadEnd here deadEnd quiet [raw]
  induction inputs with
  | nil => rfl
  | cons raw inputs ih => rw [List.map_cons, List.map_cons, replies, still, ih, replied]

/-- Neither the actions in the pit nor those of the coin get the player out of it. -/
theorem trapped_for_good_pit :
    let coin : Item := { name := "coin", start := some .inventory, actions := [.ofPhrases ["rub coin"] [.go "hall"]] }
    let hall : Room := { id := "hall", name := "Hall", exits := [⟨"d", "pit", false⟩] }
    let pit : Room := { id := "pit", name := "Pit", actions := [.ofPhrases ["climb", "quit"] [.go "hall"]] }
    let w : World := { id := "cave", startRoom := "hall", rooms := .ofList _ [hall, pit], items := [coin] }
    let session : Session := ⟨w.gameIn .english, w.initialState⟩
    let now := session.run [.onMove [.render], .opening, .step "go down"]
    let inputs := ["climb", "rub the coin", "Quit!", "drop coin"]
    let trapped : Output × Bool := (⟨[.text "You are trapped!"]⟩, false)
    Session.start w .english = .ok session ∧ w.room? now.state.here = some pit ∧ now.state.out.blocks = [] ∧
      now.run (inputs.map .step) = now ∧
      now.replies (inputs.map .step) = [trapped, trapped, (⟨[.text "Goodbye."]⟩, true), trapped] := by
  intro coin hall pit w session now inputs trapped
  have sound : w.defects = [] := by decide +kernel
  have started : Session.start w .english = .ok session := by rw [start, sound]
  have here : w.room? now.state.here = some pit := by decide +kernel
  have quiet : now.state.out.blocks = [] := by decide +kernel
  have normal : inputs.map now.game.normalizer.normalize = ["climb", "rub coin", "quit", "drop coin"] := by decide +kernel
  obtain ⟨still, replies⟩ := trapped_for_good started [.onMove [.render], .opening, .step "go down"] here rfl quiet inputs
  -- Comparing the two spellings of the run would evaluate it.
  have same : session.run [.onMove [.render], .opening, .step "go down"] = now := rfl
  rw [same] at still replies
  simp only [inputs, List.map_cons, List.map_nil, List.cons.injEq, and_true] at normal
  obtain ⟨climb, rub, quit, drop⟩ := normal
  refine ⟨started, here, quiet, still inputs List.prefix_rfl, ?_⟩
  rw [replies]
  simp [inputs, climb, rub, quit, drop, trapped]

/-- Wherever a session has come, in a room without exits a command leaves the game exactly if its normal form is "quit" or
    "exit". If any command does, one of these two words does, and one of them does exactly if one of them is neither junk
    nor an alias that is kept. So a word of the two leaves the game in all sessions where neither the language nor the world
    has it among the junk words or the aliases. -/
theorem leaves_dead_end_iff (started : start w language = .ok session) (ops : List Operation)
    (here : w.room? (session.run ops).state.here = some room) (deadEnd : room.exits = []) :
    let g := (session.run ops).game
    let s := (session.run ops).state
    let leaves (raw : String) := (g.handle raw s).2 = true
    (∀ raw, leaves raw ↔ g.normalizer.normalize raw = "quit" ∨ g.normalizer.normalize raw = "exit") ∧
      ((∃ raw, leaves raw) ↔ leaves "quit" ∨ leaves "exit") ∧
      (leaves "quit" ∨ leaves "exit" ↔ g.normalizer.IsPlain "quit" ∨ g.normalizer.IsPlain "exit") ∧
      ∀ word ∈ ["quit", "exit"], (∀ text ∈ language.junk ++ w.junk, fold text ≠ word) →
        (∀ group ∈ language.aliases ++ w.aliases, ∀ text ∈ group.aliases, fold text ≠ word) → leaves word := by
  intro g s leaves
  have settled : g.normalizer.Settled := settled_run_of_start started ops
  have tables : (session.run ops).game.normalizer = (w.gameIn language).normalizer := by
    rw [game_run, (start_eq_ok started).2]
  rw [← world_run_of_start started ops] at here
  have some_iff := Game.exists_leaves_deadEnd_iff settled here deadEnd
  have left {word : String} (leaving : word ∈ ["quit", "exit"]) (plain : g.normalizer.IsPlain word) : leaves word :=
    Game.leaves_deadEnd_of_isPlain settled here deadEnd leaving plain
  have one_iff : leaves "quit" ∨ leaves "exit" ↔ g.normalizer.IsPlain "quit" ∨ g.normalizer.IsPlain "exit" := by
    constructor
    · rintro (quits | exits)
      · exact some_iff.mp ⟨"quit", quits⟩
      · exact some_iff.mp ⟨"exit", exits⟩
    · exact Or.imp (left (by simp)) (left (by simp))
  refine ⟨Game.leaves_deadEnd_iff here deadEnd, some_iff.trans one_iff.symm, one_iff, fun word leaving kept unbound => ?_⟩
  have isWord : ∀ word ∈ ["quit", "exit"], isWord word = true := by decide +kernel
  exact left leaving (tables ▸ Normalizer.isPlain_ofTables (isWord word leaving) kept unbound)

/-- Where "quit" stands for "stop", the player leaves the pit by the other word. -/
theorem leaves_dead_end_iff_pit :
    let pit : Room := { id := "pit", name := "Pit", actions := [.ofPhrases ["stop"] [.say "Not yet."]] }
    let w : World := { id := "cave", startRoom := "pit", rooms := .ofList _ [pit], aliases := [⟨"stop", [" QUIT "]⟩] }
    let session : Session := ⟨w.gameIn .english, w.initialState⟩
    let now := session.run [.opening, .step "quit"]
    Session.start w .english = .ok session ∧ w.room? now.state.here = some pit ∧
      (now.game.handle "quit" now.state).2 = false ∧ (now.game.handle "exit" now.state).2 = true ∧
      (now.game.normalizer.IsPlain "quit" ∨ now.game.normalizer.IsPlain "exit") := by
  intro pit w session now
  have sound : w.defects = [] := by decide +kernel
  have started : Session.start w .english = .ok session := by rw [start, sound]
  have here : w.room? now.state.here = some pit := by decide +kernel
  have stops : now.game.normalizer.normalize "quit" = "stop" := by decide +kernel
  obtain ⟨leaves_iff, -, one_iff, untouched⟩ := leaves_dead_end_iff started [.opening, .step "quit"] here rfl
  have exits := untouched "exit" (by simp) (by decide +kernel) (by decide +kernel)
  refine ⟨started, here, ?_, exits, one_iff.mp (.inr exits)⟩
  rw [← Bool.not_eq_true]
  intro quits
  have normal := (leaves_iff "quit").mp quits
  rw [stops] at normal
  exact absurd normal (by decide)

/-- Where the world has both words among its junk words, or as aliases, no command leaves the pit. -/
theorem dead_end_not_left :
    let pit : Room := { id := "pit", name := "Pit" }
    let w (junk : List String) (aliases : List AliasGroup) : World :=
      { id := "cave", startRoom := "pit", rooms := .ofList _ [pit], junk, aliases }
    let session (junk : List String) (aliases : List AliasGroup) : Session :=
      ⟨(w junk aliases).gameIn .english, (w junk aliases).initialState⟩
    ∀ c ∈ [(["quit", "exit"], []), ([], [⟨"stop", ["quit"]⟩, ⟨"out", ["exit"]⟩])],
      let g := (session c.1 c.2).game
      let s := (session c.1 c.2).state
      Session.start (w c.1 c.2) .english = .ok (session c.1 c.2) ∧ (w c.1 c.2).room? s.here = some pit ∧ pit.exits = [] ∧
        ¬((g.handle "quit" s).2 = true ∨ (g.handle "exit" s).2 = true) ∧ ∀ raw, (g.handle raw s).2 = false := by
  intro pit w session c member g s
  have taken : ∀ c ∈ [(["quit", "exit"], []), ([], [⟨"stop", ["quit"]⟩, ⟨"out", ["exit"]⟩])],
      let g := (session c.1 c.2).game
      (w c.1 c.2).defects = [] ∧ (w c.1 c.2).room? (session c.1 c.2).state.here = some pit ∧
        ∀ word ∈ ["quit", "exit"], g.normalizer.isJunk word = true ∨ (g.normalizer.aliases.get? word).isSome = true := by
    decide +kernel
  obtain ⟨sound, here, taken⟩ := taken c member
  have started : Session.start (w c.1 c.2) .english = .ok (session c.1 c.2) := by rw [start, sound]
  have noWord : ∀ word ∈ ["quit", "exit"], ¬g.normalizer.IsPlain word := by
    intro word leaving plain
    rcases taken word leaving with junk | bound
    · exact Bool.false_ne_true (plain.not_junk.symm.trans junk)
    · rw [plain.not_alias] at bound
      cases bound
  have settled : g.normalizer.Settled := settled_run_of_start started []
  have stuck : ¬∃ raw, (g.handle raw s).2 = true :=
    (Game.exists_leaves_deadEnd_iff settled here rfl).not.mpr (not_or.mpr ⟨noWord "quit" (by simp), noWord "exit" (by simp)⟩)
  have never (raw : String) : ¬(g.handle raw s).2 = true := fun leaves => stuck ⟨raw, leaves⟩
  exact ⟨started, here, rfl, not_or.mpr ⟨never "quit", never "exit"⟩, fun raw => Bool.not_eq_true _ ▸ never raw⟩

end Session
end TextAdventure
