import TextAdventure.Proofs.Position

/-! Taking what lies in a room by its name. A command that neither an open exit nor an action claims is left to the
    built-in commands, and "take" with the name of an item that lies here and can be got moves this item from the room
    to the player, and nothing else. What the player types is brought into normal form first, and a name need not be a
    normal form; so an item may be out of reach, and it is exactly if "take" with its name is not its own normal form
    (`Session.takes_by_name_iff`). -/

namespace TextAdventure
open Text

/-! ### What taking does -/

/-- From `s` to `t` the item goes from the room to the player, who has no other of this name, and nothing else but the
    output differs. -/
structure State.Taken (s : State) (room : String) (item : Item) (t : State) : Prop where
  here : t.here = s.here
  blocked : t.blocked = s.blocked
  lying : ∃ before after, s.lying = before ++ ⟨room, item⟩ :: after ∧ t.lying = before ++ after
  inventory : t.inventory = s.inventory.insert item
  gone : ∀ l ∈ t.lying, l.item.name ≠ item.name
  new : s.inventory.get? item.name = none

theorem State.Taken.held {s t : State} {room : String} {item : Item} (taken : s.Taken room item t) :
    t.inventory.get? item.name = some item := by
  rw [taken.inventory, Catalog.get?_insert, if_pos rfl]

section Placed
variable {w : World} {s : State} {item : Item}

/-- A name finds the only item of this name that lies in the room. -/
theorem Placed.itemIn?_eq_some_iff {room name : String} (placed : Placed w s) :
    s.itemIn? room name = some item ↔ item ∈ s.itemsIn room ∧ item.name = name := by
  constructor
  · intro found
    exact ⟨List.mem_of_find?_eq_some found, by simpa using List.find?_some found⟩
  · rintro ⟨lies, rfl⟩
    cases found : s.itemIn? room item.name with
    | none => exact absurd (beq_self_eq_true item.name) (List.find?_eq_none.mp found item lies)
    | some other =>
      have same : other.name = item.name := by simpa using List.find?_some found
      have entry := State.mem_itemsIn_iff.mp (List.mem_of_find?_eq_some found)
      have one := List.inj_on_of_nodup_map placed.once entry (State.mem_itemsIn_iff.mp lies) same
      injection one with _ one
      rw [one]

theorem State.taken_pickUp {room : String} (placed : Placed w s) (lies : item ∈ s.itemsIn room) :
    s.Taken room item (s.pickUp room item) := by
  obtain ⟨before, after, split, left⟩ := lying_pickUp (placed.itemIn?_eq_some_iff.mpr ⟨lies, rfl⟩)
  have entry := mem_itemsIn_iff.mp lies
  refine ⟨rfl, rfl, ⟨before, after, split, left⟩, rfl, fun l member same => ?_, placed.apart _ entry⟩
  -- The entry that is taken out is the only one with this name.
  have once := placed.once
  rw [split, List.map_append, List.map_cons, List.nodup_middle, List.nodup_cons, ← List.map_append, ← left] at once
  exact once.1 (same ▸ List.mem_map_of_mem member)

theorem State.take_of_mem {room : Room} (placed : Placed w s) (lies : item ∈ s.itemsIn room.id)
    (gettable : item.gettable = true) (named : item.name ≠ "") :
    s.Taken room.id item (s.take room item.name) ∧
      (s.take room item.name).out.blocks = s.out.blocks ++ [.text s!"You take the {item.name}."] := by
  have visible : allBlank s!"You take the {item.name}." = false := by
    rw [allBlank, String.toList_append, String.toList_append, List.all_append, List.all_append]
    rfl
  rw [take, if_neg (by simpa using named), placed.itemIn?_eq_some_iff.mpr ⟨lies, rfl⟩]
  simp only [gettable, if_true]
  -- The reply changes nothing but the output, of which `Taken` does not speak.
  obtain ⟨here, blocked, lying, inventory, gone, new⟩ := taken_pickUp placed lies
  exact ⟨⟨here, blocked, lying, inventory, gone, new⟩, Output.blocks_say visible⟩

end Placed

section Gained
variable {s : State} {room : Room} {asked name : String}

/-- Taking brings the player no item of a new name but the one that was asked for. -/
theorem State.name_eq_of_take {item : Item} (new : s.inventory.get? name = none)
    (gained : (s.take room asked).inventory.get? name = some item) : asked = name ∧ name ≠ "" := by
  rcases s.take_cases room asked with ⟨out, shown⟩ | ⟨other, named, found, -, taken⟩
  · simp [shown, new] at gained
  · have same : other.name = asked := by simpa using List.find?_some found
    by_cases wanted : asked = name
    · exact ⟨wanted, wanted ▸ named⟩
    · simp [taken, pickUp, say, same, wanted, new] at gained

/-- Dropping brings the player nothing. -/
theorem State.get?_drop (new : s.inventory.get? name = none) : (s.drop room asked).inventory.get? name = none := by
  rcases s.drop_cases room asked with ⟨out, shown⟩ | ⟨item, -, -, dropped⟩
  · simp [shown, new]
  · simp [dropped, putDown, say, new]

end Gained

/-! ### Commands that are left to the built-in ones -/

/-- There is a way out of the room, and neither an open exit nor an action claims the command. -/
structure Game.LeftToBuiltIns (g : Game) (room : Room) (n : String) (s : State) : Prop where
  hasExit : room.exits ≠ []
  exits : ∀ e ∈ room.exits, ¬g.Claims room n s (.exit e)
  actions : ∀ a ∈ room.actions, ¬g.Claims room n s (.action a)
  carried : ∀ item ∈ s.inventory.values, ∀ a ∈ item.actions, ¬g.Claims room n s (.action a)

namespace Game
variable {g : Game} {room : Room} {n : String} {s : State}

instance : Decidable (g.LeftToBuiltIns room n s) :=
  decidable_of_iff (room.exits ≠ [] ∧ (∀ e ∈ room.exits, ¬g.Claims room n s (.exit e)) ∧
      (∀ a ∈ room.actions, ¬g.Claims room n s (.action a)) ∧
      ∀ item ∈ s.inventory.values, ∀ a ∈ item.actions, ¬g.Claims room n s (.action a))
    ⟨fun ⟨hasExit, exits, actions, carried⟩ => ⟨hasExit, exits, actions, carried⟩,
      fun ⟨hasExit, exits, actions, carried⟩ => ⟨hasExit, exits, actions, carried⟩⟩

theorem first?_eq_none_iff {claimants : List Claimant} :
    g.first? room n s claimants = none ↔ ∀ c ∈ claimants, ¬g.Claims room n s c := by
  simp [first?, List.find?_eq_none]

theorem LeftToBuiltIns.claimant_eq (left : g.LeftToBuiltIns room n s) :
    g.claimant room n s = (g.first? room n s builtIns).getD .fallback := by
  have exits : g.first? room n s (room.exits.map .exit) = none :=
    first?_eq_none_iff.mpr (List.forall_mem_map.mpr left.exits)
  have actions : g.first? room n s (room.actions.map .action) = none :=
    first?_eq_none_iff.mpr (List.forall_mem_map.mpr left.actions)
  have carried : g.first? room n s ((s.inventory.values.flatMap Item.actions).map .action) = none := by
    refine first?_eq_none_iff.mpr (List.forall_mem_map.mpr fun a offered => ?_)
    obtain ⟨item, held, offered⟩ := List.mem_flatMap.mp offered
    exact left.carried item held a offered
  rw [claimant, candidates, if_neg left.hasExit, first?_append, first?_append, first?_append, exits, actions, carried,
    Option.none_or, Option.none_or, Option.none_or]

/-- A command whose first word is "take" is the built-in command of this name. -/
theorem first?_builtIns_of_take (verb : (words n).head? = some "take") : g.first? room n s builtIns = some .take := by
  have verbs : ∀ text ∈ ["quit", "exit", "i", "inventory", "look"], (words text).head? ≠ some "take" := by
    decide +kernel
  have unnamed : n ∉ ["quit", "exit", "i", "inventory", "look"] := fun listed => verbs n listed verb
  simp only [List.mem_cons, List.not_mem_nil, or_false, not_or] at unnamed
  obtain ⟨quit, exit, short, inventory, look⟩ := unnamed
  have noQuit : ¬g.Claims room n s .quit := not_or.mpr ⟨quit, exit⟩
  have noInventory : ¬g.Claims room n s .inventory := not_or.mpr ⟨short, inventory⟩
  have noLook : ¬g.Claims room n s .look := look
  have noExamine : ¬g.Claims room n s .examine := by simp [Claims, verb]
  have take : g.Claims room n s .take := verb
  rw [builtIns, first?_cons_of_not_claims noQuit, first?_cons_of_not_claims noInventory,
    first?_cons_of_not_claims noLook, first?_cons_of_not_claims noExamine, first?_cons_of_claims take]

theorem words_take {name : String} (own : g.normalizer.normalize ("take " ++ name) = "take " ++ name) :
    words ("take " ++ name) = "take" :: words name ∧ joinSpaces (words name) = name ∧ name ≠ "" := by
  have lead : "take " ++ name = "take" ++ " " ++ name := rfl
  rw [lead] at own ⊢
  exact words_verb (by decide +kernel) (Normalizer.joinSpaces_words_of_normalize_eq own)

theorem LeftToBuiltIns.claimant_mem (left : g.LeftToBuiltIns room n s) : g.claimant room n s ∈ builtIns := by
  rw [left.claimant_eq]
  cases found : g.first? room n s builtIns with
  | none => simp [builtIns]
  | some c => exact List.mem_of_find?_eq_some found

/-- A built-in command that brings the player an item of a new name takes it by this name. -/
theorem take_of_gained {c : Claimant} (builtIn : c ∈ builtIns) {name : String} {item : Item}
    (new : s.inventory.get? name = none) (gained : (g.answer room n s c).1.inventory.get? name = some item) :
    c = .take ∧ joinSpaces (words n).tail = name ∧ name ≠ "" := by
  have shows (out : Output) : ({ s with out } : State).inventory.get? name ≠ some item := by simp [new]
  cases c with
  | exit | action | trap => simp [builtIns] at builtIn
  | quit | look | fallback => exact absurd gained (shows _)
  | inventory =>
    obtain ⟨out, shown⟩ := s.exists_listInventory_eq
    rw [answer, shown] at gained
    exact absurd gained (shows out)
  | examine =>
    obtain ⟨out, shown⟩ := s.exists_examine_eq room (joinSpaces (words n).tail)
    rw [answer, shown] at gained
    exact absurd gained (shows out)
  | take => exact ⟨rfl, State.name_eq_of_take new gained⟩
  | drop =>
    rw [answer, State.get?_drop new] at gained
    cases gained

/-- A command that is "take" with the name of an item, and its own normal form, is answered by taking this item. -/
theorem handle_take {name : String} (here : g.world.room? s.here = some room)
    (own : g.normalizer.normalize ("take " ++ name) = "take " ++ name)
    (left : g.LeftToBuiltIns room (g.normalizer.normalize ("take " ++ name)) s) :
    g.handle ("take " ++ name) s = (s.take room name, false) := by
  obtain ⟨split, row, -⟩ := words_take own
  have verb : (words ("take " ++ name)).head? = some "take" := by rw [split, List.head?_cons]
  rw [handle_eq_answer here, left.claimant_eq, own, first?_builtIns_of_take verb, Option.getD_some, answer, split,
    List.tail_cons, row]

/-- A command that is left to the built-in ones and brings the player an item of a new name is "take" with this name. -/
theorem normalize_eq_take_of_gained {raw name : String} (here : g.world.room? s.here = some room)
    (left : g.LeftToBuiltIns room (g.normalizer.normalize raw) s) (new : s.inventory.get? name = none)
    (gained : (g.handle raw s).1.inventory.get? name ≠ none) : g.normalizer.normalize raw = "take " ++ name := by
  obtain ⟨item, gained⟩ := Option.ne_none_iff_exists'.mp gained
  rw [handle_eq_answer here] at gained
  obtain ⟨won, rest, named⟩ := take_of_gained left.claimant_mem new gained
  have verb : (words (g.normalizer.normalize raw)).head? = some "take" := by
    have claims := claims_claimant g room (g.normalizer.normalize raw) s
    rwa [won] at claims
  have spoken : joinSpaces (words (g.normalizer.normalize raw)).tail ≠ "" := by rwa [rest]
  have row := eq_verb_append (Normalizer.joinSpaces_words_of_normalize_eq rfl) verb spoken
  rwa [rest] at row

end Game

/-! ### Every run of a session -/

namespace Session
variable {w : World} {language : Language} {session : Session}

/-- Wherever a session has come, and where no open exit and no action claims the command: an item that lies here and can be
    got is taken by its name exactly if "take" with the name is its own normal form. Otherwise the player does not have it
    after the command. -/
theorem takes_by_name_iff (started : start w language = .ok session) (ops : List Operation) {room : Room}
    (here : w.room? (session.run ops).state.here = some room) {item : Item}
    (lies : item ∈ (session.run ops).state.itemsIn room.id) (gettable : item.gettable = true)
    (left : (session.run ops).game.LeftToBuiltIns room
      ((session.run ops).game.normalizer.normalize ("take " ++ item.name)) (session.run ops).state) :
    let g := (session.run ops).game
    let s := (session.run ops).state
    let typed := "take " ++ item.name
    (g.normalizer.normalize typed = typed ↔ ∃ t, g.handle typed s = (t, false) ∧ s.Taken room.id item t ∧
        t.out.blocks = s.out.blocks ++ [.text s!"You take the {item.name}."]) ∧
      (g.normalizer.normalize typed ≠ typed → (g.handle typed s).1.inventory.get? item.name = none) := by
  intro g s typed
  have placed : Placed w s := placed_run_of_start started ops
  rw [← world_run_of_start started ops] at here
  have own_of_held (held : (g.handle typed s).1.inventory.get? item.name ≠ none) : g.normalizer.normalize typed = typed :=
    Game.normalize_eq_take_of_gained here left (placed.apart _ (State.mem_itemsIn_iff.mp lies)) held
  refine ⟨⟨fun own => ?_, ?_⟩, fun other => ?_⟩
  · obtain ⟨-, -, named⟩ := Game.words_take own
    exact ⟨s.take room item.name, Game.handle_take here own left, State.take_of_mem placed lies gettable named⟩
  · rintro ⟨t, handled, taken, -⟩
    exact own_of_held (by simp [handled, taken.held])
  · by_contra held
    exact other (own_of_held held)

/-- The lamp is taken although the world has actions: none of them claims the command. -/
theorem takes_by_name_iff_lamp :
    let lamp : Item := { name := "brass lamp", start := some (.room "hall") }
    let hall : Room := { id := "hall", name := "Hall", exits := [⟨"n", "hall", false⟩],
                         actions := [.ofPhrases ["rub the lamp"] [.say "It glows."]] }
    let w : World := { id := "house", startRoom := "hall", rooms := .ofList _ [hall], items := [lamp],
                       aliases := [⟨"brass", ["golden"]⟩] }
    let session : Session := ⟨w.gameIn .english, w.initialState⟩
    let now := session.run [.opening, .step "rub the lamp"]
    Session.start w .english = .ok session ∧ w.room? now.state.here = some hall ∧
      lamp ∈ now.state.itemsIn hall.id ∧ lamp.gettable = true ∧
      now.game.normalizer.normalize ("take " ++ lamp.name) = "take " ++ lamp.name ∧
      now.game.LeftToBuiltIns hall (now.game.normalizer.normalize ("take " ++ lamp.name)) now.state ∧
      ∃ t, now.game.handle ("take " ++ lamp.name) now.state = (t, false) ∧ now.state.Taken hall.id lamp t ∧
        t.out.blocks = [.text "You take the brass lamp."] := by
  intro lamp hall w session now
  have sound : w.defects = [] := by decide +kernel
  have started : Session.start w .english = .ok session := by rw [start, sound]
  have here : w.room? now.state.here = some hall := by decide +kernel
  have lies : lamp ∈ now.state.itemsIn hall.id := by decide +kernel
  have own : now.game.normalizer.normalize ("take " ++ lamp.name) = "take " ++ lamp.name := by decide +kernel
  have left : now.game.LeftToBuiltIns hall (now.game.normalizer.normalize ("take " ++ lamp.name)) now.state := by
    decide +kernel
  obtain ⟨taken_iff, -⟩ := takes_by_name_iff started [.opening, .step "rub the lamp"] here lies rfl left
  obtain ⟨t, handled, taken, shown⟩ := taken_iff.mp own
  have silent : now.state.out.blocks = [] := by decide +kernel
  exact ⟨started, here, lies, rfl, own, left, t, handled, taken, by rw [shown, silent]; rfl⟩

/-- Where the name of the item has a hyphen, the item stays. -/
theorem lies_not_taken :
    let lamp : Item := { name := "oil-lamp", start := some (.room "hall") }
    let hall : Room := { id := "hall", name := "Hall", exits := [⟨"n", "hall", false⟩] }
    let w : World := { id := "house", startRoom := "hall", rooms := .ofList _ [hall], items := [lamp] }
    let session : Session := ⟨w.gameIn .english, w.initialState⟩
    let g := session.game
    let s := session.state
    let typed := "take " ++ lamp.name
    Session.start w .english = .ok session ∧ w.room? s.here = some hall ∧ lamp ∈ s.itemsIn hall.id ∧ lamp.gettable = true ∧
      g.LeftToBuiltIns hall (g.normalizer.normalize typed) s ∧ ¬s.Taken hall.id lamp (g.handle typed s).1 ∧
      (g.handle typed s).1.out.blocks = [.text "You can't take that."] := by
  intro lamp hall w session g s typed
  have sound : w.defects = [] := by decide +kernel
  have unheld : (g.handle typed s).1.inventory.get? lamp.name ≠ some lamp := by decide +kernel
  exact ⟨by rw [start, sound], by decide +kernel, by decide +kernel, rfl, by decide +kernel,
    fun taken => unheld taken.held, by decide +kernel⟩

end Session
end TextAdventure
