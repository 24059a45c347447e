import TextAdventure.Proofs.Flags
import TextAdventure.Proofs.LoadedEffects
import TextAdventure.Proofs.Paragraph
import TextAdventure.Proofs.TableOrder

/-! The net result of an effect. An effect that a file declares goes through five lists one after the other, and an entry
    of one may undo what an entry of another has done. What comes of it can be read off the lists all the same: an exit
    that is both opened and blocked is blocked in the end, and an item that is both given and consumed is gone. So it
    counts only what the lists hold, and firing twice does no more than firing once, except that the text is shown again
    (`Session.effects_net_result`). -/

namespace TextAdventure
open Text

/-- Of items that names of a world are looked up for, a name finds the one that it finds in the world. -/
theorem World.findRev?_filterMap_item? (w : World) (names : List String) (name : String) :
    (names.filterMap w.item?).findRev? (·.name == name) = if name ∈ names then w.item? name else none := by
  induction names with
  | nil => rfl
  | cons n names ih =>
    cases found : w.item? n with
    | none =>
      rw [List.filterMap_cons_none found, ih]
      grind
    | some item =>
      obtain ⟨-, rfl⟩ := mem_items_of_item? found
      rw [List.filterMap_cons_some found, List.findRev?, ih]
      grind

/-! ### Rows of like changes -/

section Rows
variable {w : World}

theorem State.exitBlocked_setExitBlocked_eq (w : World) (id d : String) (b : Bool) (s : State) (room : String)
    (x : Exit) :
    (s.setExitBlocked w id d b).exitBlocked room x =
      if room = id ∧ x.direction = d ∧ w.HasPassage ⟨room, x.direction⟩ then b else s.exitBlocked room x := by
  rw [exitBlocked_setExitBlocked]
  refine if_congr ?_ rfl rfl
  rw [← World.hasPassage_iff (p := ⟨id, d⟩)]
  constructor
  · rintro ⟨passage, rfl, rfl⟩
    exact ⟨rfl, rfl, passage⟩
  · rintro ⟨rfl, rfl, passage⟩
    exact ⟨passage, rfl, rfl⟩

/-- A row of toggles decides the flags of its directions, and it leaves all else alone. -/
theorem State.exists_foldl_setExitBlocked (w : World) (id : String) (b : Bool) (directions : List String) (s : State) :
    ∃ blocked, directions.foldl (fun s d => s.setExitBlocked w id d b) s = { s with blocked } ∧
      ∀ room x, exitBlocked { s with blocked } room x =
        if room = id ∧ x.direction ∈ directions ∧ w.HasPassage ⟨room, x.direction⟩ then b else s.exitBlocked room x := by
  induction directions generalizing s with
  | nil => exact ⟨s.blocked, rfl, by simp⟩
  | cons d directions ih =>
    obtain ⟨first, toggled⟩ : ∃ first, s.setExitBlocked w id d b = { s with blocked := first } := by
      rw [setExitBlocked]
      split <;> exact ⟨_, rfl⟩
    have flag := s.exitBlocked_setExitBlocked_eq w id d b
    obtain ⟨blocked, row, flags⟩ := ih (s.setExitBlocked w id d b)
    rw [toggled] at row flags flag
    refine ⟨blocked, by rw [List.foldl_cons, toggled, row], fun room x => (flags room x).trans ?_⟩
    rw [flag]
    simp only [List.mem_cons]
    grind

/-- Items that are given in a row come into the inventory and lie nowhere any more. -/
theorem State.foldl_give {names : List String} (known : ∀ name ∈ names, ∃ item, w.item? name = some item) (s : State) :
    names.foldl (fun s name => s.give w name) s =
      { s with
        lying := s.lying.filter fun l => l.item.name ∉ names
        inventory := s.inventory.insertAll (names.filterMap w.item?) } := by
  induction names generalizing s with
  | nil => simp [Catalog.insertAll]
  | cons name names ih =>
    obtain ⟨⟨item, found⟩, others⟩ := List.forall_mem_cons.mp known
    have given : s.give w name =
        { s with lying := s.lying.filter (·.item.name != name), inventory := s.inventory.insert item } := by
      rw [give, found]
    rw [List.foldl_cons, ih others, given, List.filterMap_cons_some found]
    simp only [List.filter_filter]
    congr 1
    refine List.filter_congr fun l _ => ?_
    by_cases now : l.item.name = name <;> simp [now]

/-- Items that are consumed in a row are carried no more. -/
theorem State.foldl_consume (names : List String) (s : State) :
    names.foldl (fun s name => s.consume name) s = { s with inventory := s.inventory.filter (·.name ∉ names) } := by
  induction names generalizing s with
  | nil =>
    have all : s.inventory.filter (·.name ∉ ([] : List String)) = s.inventory :=
      Catalog.ext_get? fun k => s.inventory.get?_filter_key (· ∉ []) k
    rw [all]
    rfl
  | cons name names ih =>
    have both : (s.inventory.erase name).filter (·.name ∉ names) = s.inventory.filter (·.name ∉ name :: names) := by
      refine Catalog.ext_get? fun k => ?_
      rw [Catalog.erase, Catalog.get?_filter, Catalog.get?_filter, Catalog.get?_filter, Option.filter_filter]
      congr 1
      funext item
      by_cases now : item.name = name <;> simp [now]
    rw [List.foldl_cons, ih, consume, both]

end Rows

/-! ### One effect -/

/-- What the effect shows: the text that it says, tidied, unless it is blank. -/
def EffectDecl.shown (e : EffectDecl) : List Block :=
  match e.say with
  | none => []
  | some text => if allBlank text then [] else [.text (tidy text)]

/-- The items that the effect gives. -/
def EffectDecl.given (w : World) (e : EffectDecl) : List Item := (e.give.map fold).filterMap w.item?

/-- The items that the effect consumes. -/
def EffectDecl.consumed (w : World) (e : EffectDecl) : List Item := (e.consume.map fold).filterMap w.item?

section Run
variable {w : World} {enter : Room → State → State} {room : Room} {e : EffectDecl}

theorem State.foldl_say (e : EffectDecl) (s : State) :
    (e.say.map fun text => Step.say (tidy text)).toList.foldl (Step.run w enter room) s =
      { s with out := ⟨s.out.blocks ++ e.shown⟩ } := by
  rw [EffectDecl.shown]
  cases e.say with
  | none => simp
  | some text =>
    show s.say (tidy text) = _
    cases blank : allBlank text <;> simp [State.say, Output.say, allBlank_tidy, blank]

theorem State.foldl_go (grounded : Effect.Grounded w e.steps) (s : State) :
    (e.goTo.map Step.go).toList.foldl (Step.run w enter room) s = { s with here := e.goTo.getD s.here } := by
  cases target : e.goTo with
  | none => rfl
  | some id =>
    obtain ⟨next, found⟩ := grounded.rooms id (EffectDecl.go_mem_steps.mpr target)
    show s.goTo w id = _
    rw [goTo, if_pos (World.hasRoom_of_room? found), Option.getD_some]

/-- An effect that refers only to what is there does all that its lists say, and nothing else. -/
theorem EffectDecl.exists_run_steps (grounded : Effect.Grounded w e.steps) (enter : Room → State → State) (room : Room)
    (s : State) :
    ∃ blocked,
      Effect.run w enter room e.steps s =
        { here := e.goTo.getD s.here
          inventory := (s.inventory.insertAll (e.given w)).filter (·.name ∉ e.consume.map fold)
          lying := s.lying.filter fun l => l.item.name ∉ e.give.map fold
          blocked
          out := ⟨s.out.blocks ++ e.shown⟩ } ∧
      ∀ id x, blocked.contains ⟨id, x.direction⟩ =
        if id = room.id ∧ x.direction ∈ e.block.map fold ∧ w.HasPassage ⟨id, x.direction⟩ then true
        else if id = room.id ∧ x.direction ∈ e.unblock.map fold ∧ w.HasPassage ⟨id, x.direction⟩ then false
        else s.exitBlocked id x := by
  have given : ∀ name ∈ e.give.map fold, ∃ item, w.item? name = some item := fun name member =>
    grounded.items name (.inl (give_mem_steps.mpr (List.mem_map.mp member)))
  let said : State := { s with out := ⟨s.out.blocks ++ e.shown⟩ }
  obtain ⟨opened, unblocks, openings⟩ :=
    State.exists_foldl_setExitBlocked w room.id false (e.unblock.map fold) said
  obtain ⟨blocked, blocks, blockings⟩ :=
    State.exists_foldl_setExitBlocked w room.id true (e.block.map fold) { said with blocked := opened }
  refine ⟨blocked, ?_, fun id x => (blockings id x).trans (if_congr Iff.rfl rfl (openings id x))⟩
  rw [List.foldl_map] at unblocks blocks
  have gives := fun t => State.foldl_give given t
  have consumes := State.foldl_consume (e.consume.map fold)
  simp only [List.foldl_map] at gives consumes
  simp only [Effect.run, steps, List.foldl_append, List.foldl_map, Step.run, State.foldl_say, said, unblocks, blocks, gives,
    consumes, State.foldl_go grounded, EffectDecl.given]

/-! What the effect does, look-up by look-up. -/

variable (grounded : Effect.Grounded w e.steps) (s : State)

include grounded

theorem EffectDecl.here_run_steps : (Effect.run w enter room e.steps s).here = e.goTo.getD s.here := by
  obtain ⟨blocked, ran, -⟩ := exists_run_steps grounded enter room s
  rw [ran]

theorem EffectDecl.out_run_steps : (Effect.run w enter room e.steps s).out = ⟨s.out.blocks ++ e.shown⟩ := by
  obtain ⟨blocked, ran, -⟩ := exists_run_steps grounded enter room s
  rw [ran]

theorem EffectDecl.itemsIn_run_steps (id : String) :
    (Effect.run w enter room e.steps s).itemsIn id = (s.itemsIn id).filter (·.name ∉ e.give.map fold) := by
  obtain ⟨blocked, ran, -⟩ := exists_run_steps grounded enter room s
  rw [ran, State.itemsIn, State.itemsIn, List.filter_map, List.filter_filter, List.filter_filter]
  congr 2
  funext l
  exact Bool.and_comm _ _

theorem EffectDecl.get?_inventory_run_steps (name : String) :
    (Effect.run w enter room e.steps s).inventory.get? name =
      if name ∈ e.consume.map fold then none
      else (if name ∈ e.give.map fold then w.item? name else none).or (s.inventory.get? name) := by
  obtain ⟨blocked, ran, -⟩ := exists_run_steps grounded enter room s
  rw [ran]
  refine (Catalog.get?_filter_key _ (· ∉ e.consume.map fold) name).trans ?_
  rw [Catalog.get?_insertAll, given, World.findRev?_filterMap_item?]
  by_cases consumed : name ∈ e.consume.map fold <;> simp [consumed]

theorem EffectDecl.exitBlocked_run_steps (id : String) (x : Exit) :
    (Effect.run w enter room e.steps s).exitBlocked id x =
      if id = room.id ∧ w.HasPassage ⟨id, x.direction⟩ then
        decide (x.direction ∈ e.block.map fold) || (decide (x.direction ∉ e.unblock.map fold) && s.exitBlocked id x)
      else s.exitBlocked id x := by
  obtain ⟨blocked, ran, flags⟩ := exists_run_steps grounded enter room s
  rw [ran]
  refine (flags id x).trans ?_
  by_cases here : id = room.id ∧ w.HasPassage ⟨id, x.direction⟩
  · obtain ⟨rfl, passage⟩ := here
    by_cases shut : x.direction ∈ e.block.map fold <;> by_cases opened : x.direction ∈ e.unblock.map fold <;>
      simp only [passage, shut, opened] <;> simp
  · rw [if_neg here, if_neg fun touched => here ⟨touched.1, touched.2.2⟩,
      if_neg fun touched => here ⟨touched.1, touched.2.2⟩]

end Run

/-! ### The net result -/

/-- What an effect that `e` declares makes of the state `s`, when it fires in `room`. -/
structure EffectDecl.NetResult (w : World) (e : EffectDecl) (room : Room) (s t : State) : Prop where
  exits : ∀ x ∈ room.exits, t.exitBlocked room.id x = true ↔
    x.direction ∈ e.block.map fold ∨ x.direction ∉ e.unblock.map fold ∧ s.exitBlocked room.id x = true
  otherExits : ∀ id x, id ≠ room.id ∨ (∀ y ∈ room.exits, y.direction ≠ x.direction) →
    t.exitBlocked id x = s.exitBlocked id x
  known : ∀ name ∈ e.give ++ e.consume, ∃ item, w.item? (fold name) = some item
  inventory : ∀ item, item ∈ t.inventory.values ↔
    (item ∈ s.inventory.values ∨ item ∈ e.given w) ∧ item ∉ e.consumed w
  items : ∀ id, t.itemsIn id = (s.itemsIn id).filter (· ∉ e.given w)
  here : t.here = e.goTo.getD s.here
  out : t.out = ⟨s.out.blocks ++ e.shown⟩

/-- The same declaration, but for the order of the entries in its lists and for repeated ones. -/
structure EffectDecl.SameEntries (e e' : EffectDecl) : Prop where
  say : e'.say = e.say
  goTo : e'.goTo = e.goTo
  unblock : ∀ d, d ∈ e'.unblock ↔ d ∈ e.unblock
  block : ∀ d, d ∈ e'.block ↔ d ∈ e.block
  give : ∀ name, name ∈ e'.give ↔ name ∈ e.give
  consume : ∀ name, name ∈ e'.consume ↔ name ∈ e.consume

section NetResult
variable {w : World} {room : Room} {e e' : EffectDecl} {s : State}

theorem World.mem_items_of_mem_lookups {names : List String} {item : Item} (member : item ∈ names.filterMap w.item?) :
    item ∈ w.items ∧ item.name ∈ names := by
  obtain ⟨name, listed, found⟩ := List.mem_filterMap.mp member
  obtain ⟨declared, rfl⟩ := mem_items_of_item? found
  exact ⟨declared, listed⟩

theorem World.Valid.mem_lookups_iff (valid : w.Valid) {item : Item} (declared : item ∈ w.items) {names : List String} :
    item ∈ names.filterMap w.item? ↔ item.name ∈ names := by
  refine ⟨fun member => (mem_items_of_mem_lookups member).2, fun listed => ?_⟩
  exact List.mem_filterMap.mpr ⟨item.name, listed, valid.item?_name declared⟩

theorem EffectDecl.mem_inventory_run_steps_iff (valid : w.Valid) (placed : Placed w s) (grounded : Effect.Grounded w e.steps)
    {enter : Room → State → State} {item : Item} :
    item ∈ (Effect.run w enter room e.steps s).inventory.values ↔
      (item ∈ s.inventory.values ∨ item ∈ e.given w) ∧ item ∉ e.consumed w := by
  rw [← Catalog.get?_key_eq_some_iff, ← Catalog.get?_key_eq_some_iff, get?_inventory_run_steps grounded]
  by_cases declared : item ∈ w.items
  · rw [given, consumed, valid.mem_lookups_iff declared, valid.mem_lookups_iff declared, valid.item?_name declared]
    by_cases gone : item.name ∈ e.consume.map fold <;> by_cases comes : item.name ∈ e.give.map fold <;> simp [gone, comes]
  · -- What is no item of the world is neither carried nor given.
    refine iff_of_false (fun held => declared ?_) fun ⟨before, _⟩ => declared ?_
    · split at held
      · cases held
      · rcases Option.or_eq_some_iff.mp held with comes | ⟨-, old⟩
        · split at comes
          · exact (World.mem_items_of_item? comes).1
          · cases comes
        · exact placed.carried item (Catalog.get?_key_eq_some_iff.mp old)
    · rcases before with old | comes
      · exact placed.carried item (Catalog.get?_key_eq_some_iff.mp old)
      · exact (World.mem_items_of_mem_lookups comes).1

theorem EffectDecl.netResult_run_steps (valid : w.Valid) (placed : Placed w s) (grounded : Effect.Grounded w e.steps)
    (present : w.room? room.id = some room) (enter : Room → State → State) :
    e.NetResult w room s (Effect.run w enter room e.steps s) := by
  refine ⟨fun x declared => ?_, fun id x untouched => ?_, fun name listed => ?_, fun item => ?_, fun id => ?_,
    here_run_steps grounded s, out_run_steps grounded s⟩
  · have passage : w.HasPassage ⟨room.id, x.direction⟩ := ⟨room, present, x, declared, rfl⟩
    rw [exitBlocked_run_steps grounded, if_pos ⟨rfl, passage⟩]
    simp
  · rw [exitBlocked_run_steps grounded, if_neg]
    rintro ⟨rfl, other, found, y, declared, same⟩
    obtain rfl := Option.some.inj (present.symm.trans found)
    rcases untouched with other | missing
    · exact other rfl
    · exact missing y declared same
  · rcases List.mem_append.mp listed with given | consumed
    · exact grounded.items _ (.inl (give_mem_steps.mpr ⟨name, given, rfl⟩))
    · exact grounded.items _ (.inr (consume_mem_steps.mpr ⟨name, consumed, rfl⟩))
  · exact mem_inventory_run_steps_iff valid placed grounded
  · rw [itemsIn_run_steps grounded]
    refine List.filter_congr fun item lies => ?_
    have declared := placed.declared _ (State.mem_itemsIn_iff.mp lies)
    rw [decide_eq_decide, given, valid.mem_lookups_iff declared]

/-! ### Repeated entries and repeated effects -/

theorem EffectDecl.SameEntries.sound {file : WorldFile} {scope : Scope} (same : e.SameEntries e')
    (sound : e.Sound file scope) : e'.Sound file scope where
  goTo id target := sound.goTo id (same.goTo ▸ target)
  items name listed := sound.items name (by simpa [same.give, same.consume] using listed)
  exits id inRoom direction listed := sound.exits id inRoom direction (by simpa [same.unblock, same.block] using listed)

/-- Whatever is declared in another order, or twice, comes to the same. -/
theorem EffectDecl.SameEntries.alike (same : e.SameEntries e') (grounded : Effect.Grounded w e.steps)
    (grounded' : Effect.Grounded w e'.steps) (enter : Room → State → State) (s : State) :
    (Effect.run w enter room e'.steps s).Alike (Effect.run w enter room e.steps s) where
  here := by rw [here_run_steps grounded, here_run_steps grounded', same.goTo]
  inventory := Catalog.ext_get? fun name => by
    simp only [get?_inventory_run_steps grounded, get?_inventory_run_steps grounded', List.mem_map, same.give, same.consume]
  out := by rw [out_run_steps grounded, out_run_steps grounded', shown, same.say, ← shown]
  items id := by
    simp only [itemsIn_run_steps grounded, itemsIn_run_steps grounded', List.mem_map, same.give]
  exits id x := by
    simp only [exitBlocked_run_steps grounded, exitBlocked_run_steps grounded', List.mem_map, same.block, same.unblock]

/-- A second time the effect only shows its text again. -/
theorem EffectDecl.run_steps_twice (grounded : Effect.Grounded w e.steps) (enter : Room → State → State) (s : State) :
    let t := Effect.run w enter room e.steps s
    (Effect.run w enter room e.steps t).Alike { t with out := ⟨t.out.blocks ++ e.shown⟩ } := by
  intro t
  refine ⟨?_, Catalog.ext_get? fun name => ?_, out_run_steps grounded t, fun id => ?_, fun id x => ?_⟩
  · rw [here_run_steps grounded, here_run_steps grounded]
    cases e.goTo <;> rfl
  · show (Effect.run w enter room e.steps t).inventory.get? name = t.inventory.get? name
    rw [get?_inventory_run_steps grounded t, get?_inventory_run_steps grounded s]
    by_cases gone : name ∈ e.consume.map fold
    · simp only [if_pos gone]
    · simp only [if_neg gone]
      cases (if name ∈ e.give.map fold then w.item? name else none) <;> rfl
  · show (Effect.run w enter room e.steps t).itemsIn id = t.itemsIn id
    rw [itemsIn_run_steps grounded t, itemsIn_run_steps grounded s, List.filter_filter]
    simp only [Bool.and_self]
  · show (Effect.run w enter room e.steps t).exitBlocked id x = t.exitBlocked id x
    rw [exitBlocked_run_steps grounded t, exitBlocked_run_steps grounded s]
    split
    · cases decide (x.direction ∈ e.block.map fold) <;> simp
    · rfl

end NetResult

/-! ### Every state that a session comes through -/

namespace Session
variable {file : WorldFile} {w : World} {language : Language} {session : Session} {s : State}

/-- Wherever a session of a loaded world has come, be it within a command, and whatever entries of rooms do: an effect
    that loading has made leaves what its lists say. The same lists in another order, or with repeated entries, are loaded
    too and come to the same, and a second time the effect only shows its text again. -/
theorem effects_net_result (loaded : World.ofFile file = .ok w) (started : start w language = .ok session)
    (reached : session.Reaches s) {room : Room} (present : w.room? room.id = some room) {scope : Scope} {e : EffectDecl}
    {effect : Effect} (built : e.load file scope = .ok effect) (enter : Room → State → State) :
    let t := Effect.run w enter room effect s
    e.NetResult w room s t ∧
      (∀ e' : EffectDecl, e.SameEntries e' →
        ∃ effect', e'.load file scope = .ok effect' ∧ (Effect.run w enter room effect' s).Alike t) ∧
      (Effect.run w enter room effect t).Alike { t with out := ⟨t.out.blocks ++ e.shown⟩ } := by
  obtain ⟨-, rfl⟩ := World.ofFile_eq_ok_iff.mp loaded
  obtain ⟨sound, rfl⟩ := (e.load_eq_ok_iff effect).mp built
  have valid : file.world.Valid := valid_of_start started
  refine ⟨e.netResult_run_steps valid (placed_of_reaches started reached) sound.grounded present enter, fun e' same => ?_,
    e.run_steps_twice sound.grounded enter s⟩
  have sound' := same.sound sound
  exact ⟨e'.steps, (e'.load_eq_ok_iff _).mpr ⟨sound', rfl⟩, same.alike sound.grounded sound'.grounded enter s⟩

/-- The lever both opens and shuts the door to the north, and the oil that it gives is used up at once. -/
theorem effects_net_result_lever :
    let lever : EffectDecl := { say := some " A click. ", unblock := ["S", "n"], block := ["n", " N "], goTo := some "yard",
                                give := ["Lamp", "oil"], consume := ["oil", "key"] }
    let again : EffectDecl := { lever with unblock := ["n", "S", "n"], block := [" N ", "n"], give := ["oil", "Lamp", "oil"] }
    let hall : RoomDecl := { id := "hall", name := "Hall", exits := [⟨"n", "yard", false⟩, ⟨"s", "yard", true⟩],
                             actions := [{ phrases := ["pull lever"], effect := lever }] }
    let yard : RoomDecl := { id := "yard", name := "Yard", exits := [⟨"n", "hall", false⟩] }
    let lamp : ItemDecl := { name := "lamp", start := some "room:yard" }
    let key : ItemDecl := { name := "key", start := some "inventory" }
    let file : WorldFile := { header := { id := "house", name := "House", startRoom := "hall" }, rooms := [hall, yard],
                              items := [lamp, key, { name := "Oil" }] }
    let session : Session := ⟨file.world.gameIn .english, file.world.initialState⟩
    let s := (session.run [.opening]).state
    let t := session.game.fire hall.room lever.steps s
    World.ofFile file = .ok file.world ∧ Session.start file.world .english = .ok session ∧
      file.world.room? "hall" = some hall.room ∧ lever.load file (.room "hall") = .ok lever.steps ∧
      lever.NetResult file.world hall.room s t ∧ lever.SameEntries again ∧
      (session.game.fire hall.room again.steps s).Alike t ∧
      t.exitBlocked "hall" ⟨"n", "yard", false⟩ = true ∧ t.exitBlocked "hall" ⟨"s", "yard", true⟩ = false ∧
      t.exitBlocked "yard" ⟨"n", "hall", false⟩ = false ∧ t.inventory.values = [lamp.item] ∧ t.itemsIn "yard" = [] ∧
      t.here = "yard" ∧ t.out.blocks = [.text "A click."] := by
  intro lever again hall yard lamp key file session s t
  have loaded : World.ofFile file = .ok file.world := World.ofFile_eq_ok_of_isOk (by decide +kernel)
  have sound : file.world.defects = [] := by decide +kernel
  have started : Session.start file.world .english = .ok session := by rw [start, sound]
  have present : file.world.room? hall.room.id = some hall.room := by decide +kernel
  have faultless : lever.fault? file (.room "hall") = none := by decide +kernel
  have built : lever.load file (.room "hall") = .ok lever.steps := by rw [EffectDecl.load, faultless]
  have same : lever.SameEntries again := by
    refine ⟨rfl, rfl, fun d => ?_, fun d => ?_, fun name => ?_, fun name => Iff.rfl⟩ <;> grind
  obtain ⟨net, reordered, -⟩ :=
    effects_net_result loaded started (session.reaches_run [.opening]) present built session.game.enter
  obtain ⟨effect', built', alike⟩ := reordered again same
  obtain ⟨-, rfl⟩ := (again.load_eq_ok_iff effect').mp built'
  have flags : t.exitBlocked "hall" ⟨"n", "yard", false⟩ = true ∧ t.exitBlocked "hall" ⟨"s", "yard", true⟩ = false ∧
      t.exitBlocked "yard" ⟨"n", "hall", false⟩ = false := by decide +kernel
  have items : t.inventory.values = [lamp.item] ∧ t.itemsIn "yard" = [] := by decide +kernel
  have here : t.here = "yard" := net.here
  have out : t.out.blocks = [.text "A click."] := by decide +kernel
  exact ⟨loaded, started, present, built, net, same, alike, flags.1, flags.2.1, flags.2.2, items.1, items.2, here, out⟩

end Session
end TextAdventure
