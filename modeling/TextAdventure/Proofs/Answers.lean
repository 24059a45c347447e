import TextAdventure.Proofs.Firings
import TextAdventure.Proofs.LetterCase
import TextAdventure.Proofs.Movement
import TextAdventure.Proofs.Taking

/-! Commands that are only answered. A command that leads through no exit and runs no effect changes nothing but the
    output, unless it takes an item that lies here or drops one that is carried; and then this one item moves and nothing
    else (`Session.answers_keep_the_game`). Such a command is always answered by something that the player sees, with one
    exception: the text for what an action lacks is the author's, and it may be blank (`Session.unanswered_iff`). -/

namespace TextAdventure
open Text

/-- A command that is answered in this way leads through no exit and runs no effect: an action answers it only if
    something that the action requires is not carried. -/
structure Claimant.OnlyAnswers (s : State) (c : Claimant) : Prop where
  stays : ∀ e, c ≠ .exit e
  lacks : ∀ a, c = .action a → ∃ name ∈ a.requires, s.carries name = false

instance (s : State) : DecidablePred (Claimant.OnlyAnswers s)
  | .exit e => .isFalse fun answers => answers.stays e rfl
  | .action a => decidable_of_iff (∃ name ∈ a.requires, s.carries name = false)
      ⟨fun lacks => ⟨nofun, fun _ same => Claimant.action.inj same ▸ lacks⟩, fun answers => answers.lacks a rfl⟩
  | .quit | .trap | .inventory | .look | .examine | .take | .drop | .fallback => .isTrue ⟨nofun, nofun⟩

/-! ### What answers do -/

/-- From `s` to `t` nothing but the output differs. -/
structure State.Intact (s t : State) : Prop where
  here : t.here = s.here
  blocked : t.blocked = s.blocked
  lying : t.lying = s.lying
  inventory : t.inventory = s.inventory

/-- From `s` to `t` the item goes from the player to the end of what lies in the room, and nothing else but the output
    differs. -/
structure State.Dropped (s : State) (room : String) (item : Item) (t : State) : Prop where
  here : t.here = s.here
  blocked : t.blocked = s.blocked
  lying : t.lying = s.lying ++ [⟨room, item⟩]
  inventory : t.inventory = s.inventory.erase item.name
  held : s.inventory.get? item.name = some item
  new : ∀ l ∈ s.lying, l.item.name ≠ item.name

section Items
variable {w : World} {s t : State} {room : Room} {item : Item} {name : String}

/-- The item leaves its room, where the others stay in order, and no other room is concerned. -/
theorem State.Taken.itemsIn {id : String} (taken : s.Taken id item t) :
    (∃ before after, s.itemsIn id = before ++ item :: after ∧ t.itemsIn id = before ++ after) ∧
      ∀ other, other ≠ id → t.itemsIn other = s.itemsIn other := by
  obtain ⟨before, after, split, left⟩ := taken.lying
  refine ⟨⟨(before.filter (·.room == id)).map LyingItem.item, (after.filter (·.room == id)).map LyingItem.item, ?_, ?_⟩,
    fun other apart => ?_⟩
  · simp [State.itemsIn, split]
  · simp [State.itemsIn, left]
  · simp [State.itemsIn, split, left, apart.symm]

theorem State.Dropped.itemsIn {id : String} (dropped : s.Dropped id item t) :
    t.itemsIn id = s.itemsIn id ++ [item] ∧ ∀ other, other ≠ id → t.itemsIn other = s.itemsIn other := by
  refine ⟨?_, fun other apart => ?_⟩
  · simp [State.itemsIn, dropped.lying]
  · simp [State.itemsIn, dropped.lying, apart.symm]

/-- What is carried lies nowhere. -/
theorem Placed.name_ne_of_get? (placed : Placed w s) (found : s.inventory.get? name = some item) :
    ∀ l ∈ s.lying, l.item.name ≠ name := by
  rintro l member rfl
  rw [placed.apart l member] at found
  cases found

theorem State.dropped_drop (placed : Placed w s) (found : s.inventory.get? item.name = some item)
    (named : item.name ≠ "") :
    s.Dropped room.id item (s.drop room item.name) := by
  rw [drop, if_neg (by simpa using named), found]
  exact ⟨rfl, rfl, rfl, rfl, found, placed.name_ne_of_get? found⟩

theorem State.exists_take_eq
    (idle : ∀ item, item ∈ s.itemsIn room.id → item.name = name → name ≠ "" → item.gettable = false) :
    ∃ out, s.take room name = { s with out } := by
  rcases s.take_cases room name with shown | ⟨item, named, found, gettable, -⟩
  · exact shown
  · have lies : item ∈ s.itemsIn room.id := List.mem_of_find?_eq_some found
    have same : item.name = name := by simpa using List.find?_some found
    rw [idle item lies same named] at gettable
    cases gettable

theorem State.exists_drop_eq (idle : name ≠ "" → s.inventory.get? name = none) :
    ∃ out, s.drop room name = { s with out } := by
  rcases s.drop_cases room name with shown | ⟨item, named, found, -⟩
  · exact shown
  · rw [idle named] at found
    cases found

end Items

/-! ### Taking and dropping by a command -/

/-- The command with the normal form `n` takes the item: it is the built-in one, and the item that it names lies in the
    room and can be got. -/
structure Game.Takes (g : Game) (room : Room) (n : String) (s : State) (item : Item) : Prop where
  claimant : g.claimant room n s = .take
  named : n = "take " ++ item.name
  lies : item ∈ s.itemsIn room.id
  gettable : item.gettable = true

/-- The command with the normal form `n` drops the item: it is the built-in one and names a carried item. -/
structure Game.Drops (g : Game) (room : Room) (n : String) (s : State) (item : Item) : Prop where
  claimant : g.claimant room n s = .drop
  named : n = "drop " ++ item.name
  carried : item ∈ s.inventory.values

namespace Game
variable {g : Game} {room : Room} {raw : String} {s : State} {item : Item}

theorem Takes.onlyAnswers {n : String} (takes : g.Takes room n s item) : (g.claimant room n s).OnlyAnswers s := by
  rw [takes.claimant]
  exact ⟨nofun, nofun⟩

theorem Drops.onlyAnswers {n : String} (drops : g.Drops room n s item) : (g.claimant room n s).OnlyAnswers s := by
  rw [drops.claimant]
  exact ⟨nofun, nofun⟩

/-- What follows the verb of a normal form is the name that it was put together with. -/
theorem joinSpaces_tail_of_named {m : Normalizer} {verb name : String} (word : isWord verb = true)
    (named : m.normalize raw = verb ++ " " ++ name) : joinSpaces (words (m.normalize raw)).tail = name ∧ name ≠ "" := by
  obtain ⟨split, rest, nonempty⟩ := words_verb word (Normalizer.joinSpaces_words_of_normalize_eq named)
  rw [named, split, List.tail_cons]
  exact ⟨rest, nonempty⟩

theorem handle_of_takes (placed : Placed g.world s) (here : g.world.room? s.here = some room)
    (takes : g.Takes room (g.normalizer.normalize raw) s item) : s.Taken room.id item (g.handle raw s).1 := by
  obtain ⟨rest, nonempty⟩ := joinSpaces_tail_of_named (by decide +kernel : isWord "take" = true) takes.named
  rw [handle_eq_answer here, takes.claimant, answer, rest]
  exact (State.take_of_mem placed takes.lies takes.gettable nonempty).1

theorem handle_of_drops (placed : Placed g.world s) (here : g.world.room? s.here = some room)
    (drops : g.Drops room (g.normalizer.normalize raw) s item) : s.Dropped room.id item (g.handle raw s).1 := by
  obtain ⟨rest, nonempty⟩ := joinSpaces_tail_of_named (by decide +kernel : isWord "drop" = true) drops.named
  rw [handle_eq_answer here, drops.claimant, answer, rest]
  exact State.dropped_drop placed (Catalog.get?_eq_some_iff.mpr ⟨drops.carried, rfl⟩) nonempty

/-- A command that is only answered, and takes and drops nothing, changes nothing but the output. -/
theorem exists_handle_eq (here : g.world.room? s.here = some room)
    (answers : (g.claimant room (g.normalizer.normalize raw) s).OnlyAnswers s)
    (still : ∀ item, ¬g.Takes room (g.normalizer.normalize raw) s item ∧ ¬g.Drops room (g.normalizer.normalize raw) s item) :
    ∃ out, (g.handle raw s).1 = { s with out } := by
  have row : joinSpaces (words (g.normalizer.normalize raw)) = g.normalizer.normalize raw :=
    Normalizer.joinSpaces_words_of_normalize_eq rfl
  have claims := claims_claimant g room (g.normalizer.normalize raw) s
  rw [handle_eq_answer here]
  generalize g.normalizer.normalize raw = n at answers still row claims
  cases won : g.claimant room n s with
  | exit e => exact absurd won (answers.stays e)
  | action a =>
    obtain ⟨name, required, lacking⟩ := answers.lacks a won
    rw [answer_action_of_lacking required lacking]
    exact ⟨_, rfl⟩
  | inventory => exact s.exists_listInventory_eq
  | examine => exact s.exists_examine_eq room _
  | take =>
    rw [won] at claims
    refine State.exists_take_eq fun item lies same named => ?_
    rw [Bool.eq_false_iff]
    intro gettable
    exact (still item).1 ⟨won, same ▸ eq_verb_append row claims named, lies, gettable⟩
  | drop =>
    rw [won] at claims
    refine State.exists_drop_eq fun named => ?_
    cases found : s.inventory.get? (joinSpaces (words n).tail) with
    | none => rfl
    | some item =>
      obtain ⟨carried, same⟩ := Catalog.get?_eq_some_iff.mp found
      exact absurd ⟨won, same ▸ eq_verb_append row claims named, carried⟩ (still item).2
  | quit | trap | look | fallback => exact ⟨_, rfl⟩

end Game

/-! ### What the player sees -/

theorem Text.allBlank_append (s t : String) : allBlank (s ++ t) = (allBlank s && allBlank t) := by
  rw [allBlank, String.toList_append, List.all_append, allBlank, allBlank]

/-- A text that begins with something visible is visible. -/
theorem Text.visible_append {s : String} (visible : allBlank s = false) (t : String) : allBlank (s ++ t) = false := by
  rw [allBlank_append, visible, Bool.false_and]

namespace State
variable {s : State} {room : Room} {name text : String}

theorem out_say_ne_nil (visible : allBlank text = false) : (s.say text).out.blocks ≠ [] := by
  rw [say, Output.blocks_say visible]
  exact List.append_ne_nil_of_right_ne_nil _ (List.cons_ne_nil _ _)

/-- What is said takes away nothing. -/
theorem out_say_ne_nil_of_ne_nil (shown : s.out.blocks ≠ []) : (s.say text).out.blocks ≠ [] := by
  rw [say, Output.say]
  split
  · exact shown
  · exact List.append_ne_nil_of_left_ne_nil shown _

theorem out_listInventory_ne_nil (s : State) : s.listInventory.out.blocks ≠ [] := by
  have listed (items : List Item) (t : State) (shown : t.out.blocks ≠ []) :
      (items.foldl (fun t item => t.say ("  " ++ item.name)) t).out.blocks ≠ [] := by
    induction items generalizing t with
    | nil => exact shown
    | cons item items ih => exact ih _ (out_say_ne_nil_of_ne_nil shown)
  rw [listInventory]
  split
  · exact out_say_ne_nil (by decide)
  · exact listed _ _ (out_say_ne_nil (by decide))

theorem out_render_ne_nil (s : State) (room : Room) : (s.render room).out.blocks ≠ [] := by
  intro none
  have last := s.getLast?_render room
  rw [none] at last
  cases last

theorem out_take_ne_nil (s : State) (room : Room) (name : String) : (s.take room name).out.blocks ≠ [] := by
  rw [take]
  split
  · exact out_say_ne_nil (by decide)
  · split
    · exact out_say_ne_nil (by decide)
    · split
      · exact out_say_ne_nil (s := s) (visible_append (visible_append (by decide) _) _)
      · exact out_say_ne_nil (visible_append (visible_append (by decide) _) _)

theorem out_drop_ne_nil (s : State) (room : Room) (name : String) : (s.drop room name).out.blocks ≠ [] := by
  rw [drop]
  split
  · exact out_say_ne_nil (by decide)
  · split
    · exact out_say_ne_nil (visible_append (visible_append (by decide) _) _)
    · exact out_say_ne_nil (s := s) (visible_append (visible_append (by decide) _) _)

theorem out_examine_ne_nil (s : State) (room : Room) (name : String) : (s.examine room name).out.blocks ≠ [] := by
  rw [examine]
  split
  · exact out_say_ne_nil (by decide)
  · split
    · exact out_say_ne_nil (by decide)
    · next item found =>
      refine out_say_ne_nil ?_
      split
      · exact visible_append (visible_append (by decide) _) _
      · next described =>
        -- The description is trimmed, and a text without outer blanks that is all blank is empty.
        rw [beq_iff_eq] at described
        rw [← Bool.not_eq_true, allBlank, toList_trim, ← trimChars_eq_nil_iff, trimChars_trimChars, ← toList_trim]
        simpa using described

end State

/-- An answer shows something, unless it is the text for what an action lacks, and this text is blank. -/
theorem Game.out_answer_eq_nil_iff {g : Game} {room : Room} {n : String} {s : State} {c : Claimant}
    (quiet : s.out.blocks = []) (answers : c.OnlyAnswers s) :
    (g.answer room n s c).1.out.blocks = [] ↔
      ∃ a text, c = .action a ∧ a.missingText = some text ∧ allBlank text = true := by
  cases c with
  | exit e => exact absurd rfl (answers.stays e)
  | action a =>
    obtain ⟨name, required, lacking⟩ := answers.lacks a rfl
    rw [answer_action_of_lacking required lacking]
    cases told : a.missingText with
    | none =>
      refine iff_of_false (State.out_say_ne_nil (by decide)) ?_
      rintro ⟨b, text, same, own, -⟩
      cases same
      rw [told] at own
      cases own
    | some text =>
      cases blank : allBlank text with
      | true =>
        refine iff_of_true ?_ ⟨a, text, rfl, told, blank⟩
        rw [Option.getD_some, State.say, Output.say, if_pos blank, quiet]
      | false =>
        refine iff_of_false (State.out_say_ne_nil blank) ?_
        rintro ⟨b, other, same, own, blank'⟩
        cases same
        rw [told, Option.some.injEq] at own
        rw [← own, blank] at blank'
        cases blank'
  | inventory => exact iff_of_false s.out_listInventory_ne_nil (by simp)
  | look => exact iff_of_false (s.out_render_ne_nil room) (by simp)
  | examine => exact iff_of_false (s.out_examine_ne_nil room _) (by simp)
  | take => exact iff_of_false (s.out_take_ne_nil room _) (by simp)
  | drop => exact iff_of_false (s.out_drop_ne_nil room _) (by simp)
  | quit | trap | fallback => exact iff_of_false (State.out_say_ne_nil (by decide)) (by simp)

/-! ### Every run of a session -/

/-- The hook that an operation adds. -/
def Operation.hook? : Operation → Option Effect
  | .onMove hook => some hook
  | _ => none

namespace Session
variable {w : World} {language : Language} {session : Session}

/-- The game of a run is that of the start, with the hooks that were added, in order. -/
theorem game_run_eq (session : Session) (ops : List Operation) :
    (session.run ops).game =
      { session.game with moveHooks := session.game.moveHooks ++ ops.filterMap Operation.hook? } := by
  induction ops generalizing session with
  | nil => simp
  | cons op ops ih =>
    rw [run_cons, ih]
    cases op with
    | onMove hook => simp [apply, Operation.hook?, Game.onMove]
    | _ => rfl

/-- Wherever a session has come, its game is that of the start with the hooks that the program has added. A command
    that is only answered keeps everything but the output, unless it takes an item that lies here and can be got or
    drops one that is carried. Then this item leaves its place in the room for the player's hands, or the hands for the
    end of what lies in the room, and everything else stays where it is. -/
theorem answers_keep_the_game (started : start w language = .ok session) (ops : List Operation) :
    let g := (session.run ops).game
    let s := (session.run ops).state
    g = { w.gameIn language with moveHooks := ops.filterMap Operation.hook? } ∧
      ∀ room, w.room? s.here = some room → ∀ raw,
        let n := g.normalizer.normalize raw
        let t := (g.handle raw s).1
        (g.claimant room n s).OnlyAnswers s →
          ((∀ item, ¬g.Takes room n s item ∧ ¬g.Drops room n s item) → s.Intact t) ∧
          (∀ item, g.Takes room n s item → s.Taken room.id item t ∧
            (∃ before after, s.itemsIn room.id = before ++ item :: after ∧ t.itemsIn room.id = before ++ after) ∧
            ∀ other, other ≠ room.id → t.itemsIn other = s.itemsIn other) ∧
          ∀ item, g.Drops room n s item → s.Dropped room.id item t ∧
            t.itemsIn room.id = s.itemsIn room.id ++ [item] ∧
            ∀ other, other ≠ room.id → t.itemsIn other = s.itemsIn other := by
  intro g s
  have placed : Placed g.world s := world_run_of_start started ops ▸ placed_run_of_start started ops
  constructor
  · obtain ⟨-, rfl⟩ := start_eq_ok started
    exact game_run_eq _ ops
  · intro room here raw n t answers
    rw [← world_run_of_start started ops] at here
    refine ⟨fun still => ?_, fun item takes => ?_, fun item drops => ?_⟩
    · obtain ⟨out, same⟩ := Game.exists_handle_eq here answers still
      show s.Intact (g.handle raw s).1
      rw [same]
      exact ⟨rfl, rfl, rfl, rfl⟩
    · have taken := Game.handle_of_takes placed here takes
      exact ⟨taken, taken.itemsIn⟩
    · have dropped := Game.handle_of_drops placed here drops
      exact ⟨dropped, dropped.itemsIn⟩

/-- The lamp is taken and the key is dropped. Without the oil the door is not opened, and nothing else happens. -/
theorem answers_keep_the_game_lamp :
    let lamp : Item := { name := "lamp", start := some (.room "hall") }
    let key : Item := { name := "key", start := some .inventory }
    let hall : Room := { id := "hall", name := "Hall", exits := [⟨"n", "hall", true⟩],
                         actions := [{ phrases := ["open door"], requires := ["key", "oil"], effect := [.unblock "n"] }] }
    let w : World := { id := "house", startRoom := "hall", rooms := .ofList _ [hall], items := [lamp, key, .ofName "oil"] }
    let session : Session := ⟨w.gameIn .english, w.initialState⟩
    let now := session.run [.onMove [.render], .opening]
    let n (raw : String) := now.game.normalizer.normalize raw
    let after (raw : String) := (now.game.handle raw now.state).1
    Session.start w .english = .ok session ∧ w.room? now.state.here = some hall ∧
      now.game.Takes hall (n "take the lamp") now.state lamp ∧ now.game.Drops hall (n "drop key") now.state key ∧
      (now.game.claimant hall (n "open the door") now.state).OnlyAnswers now.state ∧
      now.state.Taken hall.id lamp (after "take the lamp") ∧ now.state.Dropped hall.id key (after "drop key") ∧
      now.state.Intact (after "open the door") := by
  intro lamp key hall w session now n after
  have sound : w.defects = [] := by decide +kernel
  have started : Session.start w .english = .ok session := by rw [start, sound]
  have here : w.room? now.state.here = some hall := by decide +kernel
  have refused : (now.game.claimant hall (n "open the door") now.state).OnlyAnswers now.state ∧
      now.game.claimant hall (n "open the door") now.state ∉ [.take, .drop] := by decide +kernel
  have take : now.game.claimant hall (n "take the lamp") now.state = .take ∧ n "take the lamp" = "take " ++ lamp.name ∧
      lamp ∈ now.state.itemsIn hall.id := by decide +kernel
  have drop : now.game.claimant hall (n "drop key") now.state = .drop ∧ n "drop key" = "drop " ++ key.name ∧
      key ∈ now.state.inventory.values := by decide +kernel
  have takes : now.game.Takes hall (n "take the lamp") now.state lamp := ⟨take.1, take.2.1, take.2.2, rfl⟩
  have drops : now.game.Drops hall (n "drop key") now.state key := ⟨drop.1, drop.2.1, drop.2.2⟩
  have still (item : Item) : ¬now.game.Takes hall (n "open the door") now.state item ∧
      ¬now.game.Drops hall (n "open the door") now.state item := by
    have other := refused.2
    simp only [List.mem_cons, List.not_mem_nil, or_false, not_or] at other
    exact ⟨fun takes => other.1 takes.claimant, fun drops => other.2 drops.claimant⟩
  obtain ⟨-, kept⟩ := answers_keep_the_game started [.onMove [.render], .opening]
  have taken := (kept hall here "take the lamp" takes.onlyAnswers).2.1 lamp takes
  have dropped := (kept hall here "drop key" drops.onlyAnswers).2.2 key drops
  have intact := (kept hall here "open the door" refused.1).1 still
  exact ⟨started, here, takes, drops, refused.1, taken.1, dropped.1, intact⟩

/-- Wherever a session has come, a command that is only answered, with no output left from before, shows something
    exactly if it is not refused by an action whose text for what is missing is blank. -/
theorem unanswered_iff (started : start w language = .ok session) (ops : List Operation) {room : Room}
    (here : w.room? (session.run ops).state.here = some room) (quiet : (session.run ops).state.out.blocks = [])
    (raw : String) :
    let g := (session.run ops).game
    let s := (session.run ops).state
    let c := g.claimant room (g.normalizer.normalize raw) s
    c.OnlyAnswers s →
      ((g.step raw s).2.1.blocks = [] ↔ ∃ a text, c = .action a ∧ a.missingText = some text ∧ allBlank text = true) := by
  intro g s c answers
  rw [← world_run_of_start started ops] at here
  have handled : g.handle raw s = g.answer room (g.normalizer.normalize raw) s c := Game.handle_eq_answer here raw
  have shown : (g.step raw s).2.1 = (g.answer room (g.normalizer.normalize raw) s c).1.out := by
    rw [Game.step, handled]
  rw [shown]
  exact Game.out_answer_eq_nil_iff quiet answers

/-- The door says nothing about what it lacks, and the gate tells the player. -/
theorem unanswered_iff_door :
    let door : Action := { phrases := ["open door"], requires := ["key"], missingText := some " \n", effect := [.go "hall"] }
    let gate : Action := { phrases := ["open gate"], requires := ["key"], effect := [.go "hall"] }
    let hall : Room := { id := "hall", name := "Hall", exits := [⟨"n", "hall", true⟩], actions := [door, gate] }
    let w : World := { id := "house", startRoom := "hall", rooms := .ofList _ [hall], items := [.ofName "key"] }
    let session : Session := ⟨w.gameIn .english, w.initialState⟩
    let now := session.run [.opening]
    let claimant (raw : String) := now.game.claimant hall (now.game.normalizer.normalize raw) now.state
    Session.start w .english = .ok session ∧ w.room? now.state.here = some hall ∧ now.state.out.blocks = [] ∧
      (claimant "open the door").OnlyAnswers now.state ∧ (now.game.step "open the door" now.state).2.1.blocks = [] ∧
      (claimant "open the gate").OnlyAnswers now.state ∧ (now.game.step "open the gate" now.state).2.1.blocks ≠ [] := by
  intro door gate hall w session now claimant
  have sound : w.defects = [] := by decide +kernel
  have started : Session.start w .english = .ok session := by rw [start, sound]
  have here : w.room? now.state.here = some hall := by decide +kernel
  have quiet : now.state.out.blocks = [] := by decide +kernel
  have atDoor : claimant "open the door" = .action door ∧ (claimant "open the door").OnlyAnswers now.state := by decide +kernel
  have atGate : claimant "open the gate" = .action gate ∧ (claimant "open the gate").OnlyAnswers now.state := by decide +kernel
  have door_iff := unanswered_iff started [.opening] here quiet "open the door" atDoor.2
  have gate_iff := unanswered_iff started [.opening] here quiet "open the gate" atGate.2
  have blank : ∃ a text, claimant "open the door" = .action a ∧ a.missingText = some text ∧ allBlank text = true :=
    ⟨door, " \n", atDoor.1, rfl, by decide⟩
  have told : ¬∃ a text, claimant "open the gate" = .action a ∧ a.missingText = some text ∧ allBlank text = true := by
    rintro ⟨a, text, won, own, -⟩
    obtain rfl := Claimant.action.inj (atGate.1.symm.trans won)
    cases own
  -- Comparing the two spellings of the run would evaluate it.
  have same : session.run [.opening] = now := rfl
  rw [same] at door_iff gate_iff
  exact ⟨started, here, quiet, atDoor.2, door_iff.mpr blank, atGate.2, mt gate_iff.mp told⟩

/-- The action lacks the key and has an empty text for it, so the player is told nothing. -/
theorem refusal_unheard :
    let door : Action := { phrases := ["open door"], requires := ["key"], missingText := some "", effect := [.say "Open."] }
    let hall : Room := { id := "hall", name := "Hall", exits := [⟨"n", "hall", false⟩], actions := [door] }
    let w : World := { id := "house", startRoom := "hall", rooms := .ofList _ [hall], items := [.ofName "key"] }
    let session : Session := ⟨w.gameIn .english, w.initialState⟩
    let g := session.game
    let s := session.state
    Session.start w .english = .ok session ∧ w.room? s.here = some hall ∧ s.out.blocks = [] ∧
      (g.claimant hall (g.normalizer.normalize "open door") s).OnlyAnswers s ∧ (g.step "open door" s).2.1.blocks = [] := by
  intro door hall w session g s
  have sound : w.defects = [] := by decide +kernel
  exact ⟨by rw [start, sound], by decide +kernel, rfl, by decide +kernel, by decide +kernel⟩

end Session
end TextAdventure
