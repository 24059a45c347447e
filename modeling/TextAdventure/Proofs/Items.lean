import TextAdventure.Proofs.Run
import Mathlib.Data.List.Nodup

/-! Where the items are. In a world without defects each declared item is in at most one place, whatever is
    asked of a session: it lies once in one room of the world, or it is carried, or it is nowhere. Four calls
    move items (`Call.itemsMoved_apply`); only `consume` takes one out of the game, and only `give` brings one
    into it. -/

namespace TextAdventure

theorem World.Valid.eq_of_name {w : World} (valid : w.Valid) {x y : Item} (declaredX : x ∈ w.items)
    (declaredY : y ∈ w.items) (same : x.name = y.name) : x = y :=
  List.inj_on_of_nodup_map valid.names declaredX declaredY same

theorem World.mem_items_of_item? {w : World} {name : String} {item : Item} (found : w.item? name = some item) :
    item ∈ w.items ∧ item.name = name :=
  ⟨List.mem_of_find?_eq_some found, by simpa using List.find?_some found⟩

theorem World.Valid.item?_name {w : World} (valid : w.Valid) {item : Item} (declared : item ∈ w.items) :
    w.item? item.name = some item := by
  cases found : w.item? item.name with
  | none => exact absurd (beq_self_eq_true item.name) (List.find?_eq_none.mp found item declared)
  | some other =>
    obtain ⟨known, same⟩ := World.mem_items_of_item? found
    rw [valid.eq_of_name known declared same]

theorem World.mem_lying_initialState {w : World} {l : LyingItem} (member : l ∈ w.initialState.lying) :
    l.item ∈ w.items ∧ l.item.start = some (.room l.room) := by
  obtain ⟨item, declared, found⟩ := List.mem_filterMap.mp member
  split at found
  · next id start =>
    obtain rfl := Option.some.inj found
    exact ⟨declared, start⟩
  · cases found

theorem World.mem_inventory_initialState {w : World} {item : Item} (member : item ∈ w.initialState.inventory.values) :
    item ∈ w.items ∧ item.start = some .inventory := by
  rcases Catalog.mem_insertAll member with old | new
  · cases old
  · simpa using List.mem_filter.mp new

/-! ### What a call does to the items -/

/-- The ways in which a call that is made in the state `s` and ends in the state `t` can move items. -/
inductive ItemsMoved (w : World) (s t : State) : Call → Prop where
  /-- All items stay where they are. -/
  | stay {c : Call} (lying : t.lying = s.lying) (carried : t.inventory = s.inventory) : ItemsMoved w s t c
  | give {name : String} {item : Item} (found : w.item? name = some item)
      (lying : t.lying = s.lying.filter (·.item.name != name)) (carried : t.inventory = s.inventory.insert item) :
      ItemsMoved w s t (.give name)
  | consume {name : String} (lying : t.lying = s.lying) (carried : t.inventory = s.inventory.erase name) :
      ItemsMoved w s t (.consume name)
  | take {room : Room} {name : String} {l : LyingItem} {before after : List LyingItem}
      (split : s.lying = before ++ l :: after) (lying : t.lying = before ++ after)
      (carried : t.inventory = s.inventory.insert l.item) : ItemsMoved w s t (.take room name)
  | drop {room : Room} {item : Item} (found : s.inventory.get? item.name = some item)
      (lying : t.lying = s.lying ++ [⟨room.id, item⟩]) (carried : t.inventory = s.inventory.erase item.name) :
      ItemsMoved w s t (.drop room item.name)

namespace State
variable {s : State}

theorem mem_itemsIn_iff {room : String} {item : Item} : item ∈ s.itemsIn room ↔ ⟨room, item⟩ ∈ s.lying := by
  rw [itemsIn, List.mem_map]
  constructor
  · rintro ⟨⟨here, item⟩, member, rfl⟩
    obtain ⟨entry, same⟩ := List.mem_filter.mp member
    obtain rfl := beq_iff_eq.mp same
    exact entry
  · exact fun entry => ⟨⟨room, item⟩, List.mem_filter.mpr ⟨entry, beq_self_eq_true room⟩, rfl⟩

/-- The item that a name finds in a room is the first entry with both. -/
theorem itemIn?_eq_map_find? (room name : String) :
    s.itemIn? room name = (s.lying.find? fun l => l.room == room && l.item.name == name).map LyingItem.item := by
  rw [itemIn?, itemsIn, List.find?_map, List.find?_filter]
  congr 2
  funext l
  rw [Bool.decide_and, Bool.decide_eq_true, Bool.decide_eq_true, Function.comp_apply]

/-- Picking up what a name finds takes one entry out of the list, and nothing else. -/
theorem lying_pickUp {room name : String} {item : Item} (found : s.itemIn? room name = some item) :
    ∃ before after, s.lying = before ++ ⟨room, item⟩ :: after ∧ (s.pickUp room item).lying = before ++ after := by
  rw [itemIn?_eq_map_find?, Option.map_eq_some_iff] at found
  obtain ⟨⟨here, item⟩, found, rfl⟩ := found
  obtain ⟨hit, before, after, split, missed⟩ := List.find?_eq_some_iff_append.mp found
  obtain ⟨rfl, rfl⟩ : here = room ∧ item.name = name := by simpa using hit
  refine ⟨before, after, split, ?_⟩
  rw [pickUp, split, List.eraseP_append_right _ fun b member => by simpa [← not_and_or] using missed b member]
  exact congrArg (before ++ ·) (List.eraseP_cons_of_pos hit)

end State

/-- Four calls move items; all others leave them where they are. -/
theorem Call.itemsMoved_apply (w : World) (s : State) (c : Call) : ItemsMoved w s (c.apply w s) c := by
  cases c with
  | listInventory =>
    obtain ⟨out, shown⟩ := s.exists_listInventory_eq
    rw [apply, shown]
    exact .stay rfl rfl
  | examine room name =>
    obtain ⟨out, shown⟩ := s.exists_examine_eq room name
    rw [apply, shown]
    exact .stay rfl rfl
  | setExitBlocked room direction blocked =>
    rw [apply, State.setExitBlocked]
    split <;> exact .stay rfl rfl
  | goTo room =>
    rw [apply, State.goTo]
    split <;> exact .stay rfl rfl
  | give name =>
    rw [apply, State.give]
    split
    · exact .stay rfl rfl
    · next found => exact .give found rfl rfl
  | consume name => exact .consume rfl rfl
  | take room name =>
    rw [apply]
    rcases s.take_cases room name with ⟨out, shown⟩ | ⟨item, -, found, -, taken⟩
    · rw [shown]
      exact .stay rfl rfl
    · obtain ⟨before, after, split, lying⟩ := State.lying_pickUp found
      rw [taken]
      exact .take split lying rfl
  | drop room name =>
    rw [apply]
    rcases s.drop_cases room name with ⟨out, shown⟩ | ⟨item, -, found, dropped⟩
    · rw [shown]
      exact .stay rfl rfl
    · obtain ⟨-, rfl⟩ := Catalog.get?_eq_some_iff.mp found
      rw [dropped]
      exact .drop found rfl rfl
  | _ => exact .stay rfl rfl

/-! ### Each item is in at most one place -/

/-- What lies in rooms and is carried is declared and in its only place. -/
structure Placed (w : World) (s : State) : Prop where
  declared : ∀ l ∈ s.lying, l.item ∈ w.items
  roomed : ∀ l ∈ s.lying, w.hasRoom l.room = true
  carried : ∀ item ∈ s.inventory.values, item ∈ w.items
  once : (s.lying.map fun l => l.item.name).Nodup
  apart : ∀ l ∈ s.lying, s.inventory.get? l.item.name = none

namespace Placed
variable {w : World} {s t : State}

theorem initial (valid : w.Valid) : Placed w w.initialState := by
  refine ⟨fun l member => (World.mem_lying_initialState member).1, fun l member => ?_,
    fun item member => (World.mem_inventory_initialState member).1, ?_, fun l member => ?_⟩
  · obtain ⟨declared, start⟩ := World.mem_lying_initialState member
    exact valid.starts l.item declared l.room start
  · have distinct := List.pairwise_map.mp valid.names
    refine List.pairwise_map.mpr (List.pairwise_filterMap.mpr (distinct.imp ?_))
    intro x y apart l foundX m foundY
    split at foundX <;> cases foundX
    split at foundY <;> cases foundY
    exact apart
  · cases found : w.initialState.inventory.get? l.item.name with
    | none => rfl
    | some item =>
      obtain ⟨held, same⟩ := Catalog.get?_eq_some_iff.mp found
      obtain ⟨lies, inRoom⟩ := World.mem_lying_initialState member
      obtain ⟨declared, inHands⟩ := World.mem_inventory_initialState held
      rw [valid.eq_of_name declared lies same, inRoom] at inHands
      cases inHands

section Moves
variable {name : String} {item : Item} {room : Room}

theorem give (placed : Placed w s) (found : w.item? name = some item)
    (lying : t.lying = s.lying.filter (·.item.name != name)) (inventory : t.inventory = s.inventory.insert item) :
    Placed w t := by
  obtain ⟨known, named⟩ := World.mem_items_of_item? found
  have still {l : LyingItem} (member : l ∈ t.lying) : l ∈ s.lying ∧ item.name ≠ l.item.name := by
    rw [lying, List.mem_filter, bne_iff_ne] at member
    exact ⟨member.1, fun same => member.2 (same ▸ named)⟩
  refine ⟨fun l member => placed.declared l (still member).1, fun l member => placed.roomed l (still member).1,
    fun other member => ?_, ?_, fun l member => ?_⟩
  · rw [inventory] at member
    rcases Catalog.mem_place member with rfl | old
    · exact known
    · exact placed.carried other old
  · rw [lying]
    exact placed.once.sublist (List.filter_sublist.map _)
  · rw [inventory, Catalog.get?_insert, if_neg (still member).2, placed.apart l (still member).1]

theorem consume (placed : Placed w s) (lying : t.lying = s.lying) (inventory : t.inventory = s.inventory.erase name) :
    Placed w t := by
  refine ⟨lying ▸ placed.declared, lying ▸ placed.roomed, fun item member => ?_, lying ▸ placed.once,
    fun l member => ?_⟩
  · rw [inventory] at member
    exact placed.carried item (List.mem_of_mem_filter member)
  · rw [inventory, Catalog.get?_erase, placed.apart l (lying ▸ member), ite_self]

theorem take {l : LyingItem} {before after : List LyingItem} (placed : Placed w s)
    (split : s.lying = before ++ l :: after) (lying : t.lying = before ++ after)
    (inventory : t.inventory = s.inventory.insert l.item) : Placed w t := by
  have once := placed.once
  rw [split, List.map_append, List.map_cons, List.nodup_middle, List.nodup_cons, ← List.map_append, ← lying] at once
  obtain ⟨new, once⟩ := once
  have still {m : LyingItem} (member : m ∈ t.lying) : m ∈ s.lying := by
    rw [lying] at member
    rw [split]
    exact ((List.sublist_cons_self l after).append_left before).subset member
  refine ⟨fun m member => placed.declared m (still member), fun m member => placed.roomed m (still member),
    fun item member => ?_, once, fun m member => ?_⟩
  · rw [inventory] at member
    rcases Catalog.mem_place member with rfl | old
    · exact placed.declared l (split ▸ List.mem_append_right before List.mem_cons_self)
    · exact placed.carried item old
  · have ne : l.item.name ≠ m.item.name := fun same => new (same ▸ List.mem_map_of_mem member)
    rw [inventory, Catalog.get?_insert, if_neg ne, placed.apart m (still member)]

theorem drop (placed : Placed w s) (present : w.hasRoom room.id = true)
    (found : s.inventory.get? item.name = some item) (lying : t.lying = s.lying ++ [⟨room.id, item⟩])
    (inventory : t.inventory = s.inventory.erase item.name) : Placed w t := by
  have nowhere : ∀ l ∈ s.lying, item.name ≠ l.item.name := fun l member same => by
    rw [same, placed.apart l member] at found
    cases found
  have come {l : LyingItem} (member : l ∈ t.lying) : l ∈ s.lying ∨ l = ⟨room.id, item⟩ := by
    rw [lying] at member
    simpa using member
  refine ⟨fun l member => ?_, fun l member => ?_, fun other member => ?_, ?_, fun l member => ?_⟩
  · rcases come member with old | rfl
    · exact placed.declared l old
    · exact placed.carried item (Catalog.get?_eq_some_iff.mp found).1
  · rcases come member with old | rfl
    · exact placed.roomed l old
    · exact present
  · rw [inventory] at member
    exact placed.carried other (List.mem_of_mem_filter member)
  · rw [lying, List.map_append, List.map_singleton, List.nodup_append_comm, List.singleton_append, List.nodup_cons]
    refine ⟨fun member => ?_, placed.once⟩
    obtain ⟨l, old, same⟩ := List.mem_map.mp member
    exact nowhere l old same.symm
  · rw [inventory, Catalog.get?_erase]
    rcases come member with old | rfl
    · rw [if_neg (nowhere l old), placed.apart l old]
    · exact if_pos rfl

end Moves

theorem of_itemsMoved {c : Call} (inWorld : c.InWorld w) (moved : ItemsMoved w s t c) (placed : Placed w s) :
    Placed w t := by
  cases moved with
  | stay lying inventory =>
    obtain ⟨declared, roomed, carried, once, apart⟩ := placed
    exact ⟨lying ▸ declared, lying ▸ roomed, inventory ▸ carried, lying ▸ once, lying ▸ inventory ▸ apart⟩
  | give found lying inventory => exact placed.give found lying inventory
  | consume lying inventory => exact placed.consume lying inventory
  | take split lying inventory => exact placed.take split lying inventory
  | drop found lying inventory => exact placed.drop (World.hasRoom_of_room? inWorld) found lying inventory

theorem apply (placed : Placed w s) (c : Call) (inWorld : c.InWorld w) : Placed w (c.apply w s) :=
  placed.of_itemsMoved inWorld (c.itemsMoved_apply w s)

/-- No name stands twice over all that lies in rooms and is carried. -/
theorem nodup (placed : Placed w s) : ((s.lying.map LyingItem.item ++ s.inventory.values).map Item.name).Nodup := by
  rw [List.map_append, List.map_map, List.nodup_append]
  refine ⟨placed.once, ?_, fun x lies y held same => ?_⟩
  · exact List.pairwise_map.mpr (s.inventory.ascending.imp fun less => String.ne_of_lt less)
  · obtain ⟨l, member, rfl⟩ := List.mem_map.mp lies
    obtain ⟨item, carried, rfl⟩ := List.mem_map.mp held
    have found : s.inventory.get? l.item.name = some item := Catalog.get?_eq_some_iff.mpr ⟨carried, same.symm⟩
    rw [placed.apart l member] at found
    cases found

/-- Wherever the calls of an operation lead, each item is in at most one place. -/
theorem run {session : Session} (placed : Placed session.game.world session.state) (ops : List Operation) :
    Placed session.game.world (session.run ops).state :=
  Session.run_induction rfl placed fun _ c inWorld placed => placed.apply c inWorld

end Placed

/-! ### How items come and go -/

/-- The item lies in a room or is carried. -/
def State.Located (s : State) (item : Item) : Prop := (∃ room, item ∈ s.itemsIn room) ∨ item ∈ s.inventory.values

theorem State.located_iff {s : State} {item : Item} :
    s.Located item ↔ (∃ l ∈ s.lying, l.item = item) ∨ s.inventory.get? item.name = some item := by
  rw [Located, Catalog.get?_eq_some_iff, and_iff_left rfl]
  refine or_congr_left ⟨fun ⟨room, lies⟩ => ⟨⟨room, item⟩, mem_itemsIn_iff.mp lies, rfl⟩, ?_⟩
  rintro ⟨l, entry, rfl⟩
  exact ⟨l.room, mem_itemsIn_iff.mpr entry⟩

section Moves
variable {w : World} {s t : State} {name : String} {item : Item}

theorem located_stay (lying : t.lying = s.lying) (inventory : t.inventory = s.inventory) :
    t.Located item ↔ s.Located item := by
  rw [State.located_iff, State.located_iff, lying, inventory]

theorem located_give (valid : w.Valid) (declared : item ∈ w.items) {given : Item} (found : w.item? name = some given)
    (lying : t.lying = s.lying.filter (·.item.name != name)) (inventory : t.inventory = s.inventory.insert given) :
    t.Located item ↔ s.Located item ∨ name = item.name := by
  obtain ⟨known, rfl⟩ := World.mem_items_of_item? found
  rw [State.located_iff, State.located_iff, lying, inventory, Catalog.get?_insert]
  by_cases same : given.name = item.name
  · simp [valid.eq_of_name known declared same]
  · rw [if_neg same, or_iff_left same]
    refine or_congr_left ⟨fun ⟨l, member, here⟩ => ⟨l, List.mem_of_mem_filter member, here⟩, ?_⟩
    rintro ⟨l, member, rfl⟩
    exact ⟨l, List.mem_filter.mpr ⟨member, bne_iff_ne.mpr (Ne.symm same)⟩, rfl⟩

theorem located_consume (lying : t.lying = s.lying) (inventory : t.inventory = s.inventory.erase name) :
    t.Located item ↔
      (∃ l ∈ s.lying, l.item = item) ∨ name ≠ item.name ∧ s.inventory.get? item.name = some item := by
  rw [State.located_iff, lying, inventory, Catalog.get?_erase]
  by_cases same : name = item.name <;> simp [same]

theorem located_take (placed : Placed w s) {l : LyingItem} {before after : List LyingItem}
    (split : s.lying = before ++ l :: after) (lying : t.lying = before ++ after)
    (inventory : t.inventory = s.inventory.insert l.item) : t.Located item ↔ s.Located item := by
  have entry : l ∈ s.lying := split ▸ List.mem_append_right before List.mem_cons_self
  rw [State.located_iff, State.located_iff, lying, inventory, Catalog.get?_insert]
  by_cases taken : l.item = item
  · subst taken
    exact iff_of_true (.inr (if_pos rfl)) (.inl ⟨l, entry, rfl⟩)
  · refine or_congr (by simp [split, or_and_right, exists_or, taken]) ?_
    by_cases same : l.item.name = item.name
    · rw [if_pos same, ← same, placed.apart l entry]
      simp [taken]
    · rw [if_neg same]

theorem located_drop {room : Room} {dropped : Item} (found : s.inventory.get? dropped.name = some dropped)
    (lying : t.lying = s.lying ++ [⟨room.id, dropped⟩]) (inventory : t.inventory = s.inventory.erase dropped.name) :
    t.Located item ↔ s.Located item := by
  rw [State.located_iff, State.located_iff, lying, inventory, Catalog.get?_erase]
  by_cases moved : dropped = item
  · subst moved
    simp [found]
  · refine or_congr (by simp [moved]) ?_
    by_cases same : dropped.name = item.name
    · rw [if_pos same, ← same, found]
      simp [moved]
    · rw [if_neg same]

end Moves

namespace ItemsMoved
variable {w : World} {s t : State} {c : Call} {item : Item}

/-- Only `consume` takes an item out of the game. -/
theorem eq_consume_of_lost (valid : w.Valid) (placed : Placed w s) (declared : item ∈ w.items)
    (moved : ItemsMoved w s t c) (before : s.Located item) (after : ¬t.Located item) : c = .consume item.name := by
  cases moved with
  | stay lying inventory => exact absurd ((located_stay lying inventory).mpr before) after
  | give found lying inventory =>
    exact absurd ((located_give valid declared found lying inventory).mpr (.inl before)) after
  | @consume name lying inventory =>
    by_cases same : name = item.name
    · rw [same]
    · rw [State.located_iff] at before
      exact absurd ((located_consume lying inventory).mpr (before.imp_right (.intro same))) after
  | take split lying inventory => exact absurd ((located_take placed split lying inventory).mpr before) after
  | drop found lying inventory => exact absurd ((located_drop found lying inventory).mpr before) after

/-- Only `give` brings an item into the game. -/
theorem eq_give_of_gained (valid : w.Valid) (placed : Placed w s) (declared : item ∈ w.items)
    (moved : ItemsMoved w s t c) (before : ¬s.Located item) (after : t.Located item) : c = .give item.name := by
  cases moved with
  | stay lying inventory => exact absurd ((located_stay lying inventory).mp after) before
  | give found lying inventory =>
    rcases (located_give valid declared found lying inventory).mp after with already | rfl
    · exact absurd already before
    · rfl
  | consume lying inventory =>
    have already := ((located_consume lying inventory).mp after).imp_right And.right
    exact absurd (State.located_iff.mpr already) before
  | take split lying inventory => exact absurd ((located_take placed split lying inventory).mp after) before
  | drop found lying inventory => exact absurd ((located_drop found lying inventory).mp after) before

end ItemsMoved

section ApplyAll
variable {w : World} {s : State} {calls : List Call} {item : Item}

theorem consume_mem_of_lost (valid : w.Valid) (inWorld : ∀ c ∈ calls, c.InWorld w) (placed : Placed w s)
    (declared : item ∈ w.items) (before : s.Located item) (after : ¬(s.applyAll w calls).Located item) :
    .consume item.name ∈ calls := by
  induction calls generalizing s with
  | nil => exact absurd before after
  | cons c calls ih =>
    have moved := c.itemsMoved_apply w s
    by_cases still : (c.apply w s).Located item
    · exact List.mem_cons_of_mem c (ih (fun d member => inWorld d (List.mem_cons_of_mem c member))
        (placed.of_itemsMoved (inWorld c List.mem_cons_self) moved) still after)
    · rw [moved.eq_consume_of_lost valid placed declared before still]
      exact List.mem_cons_self

theorem give_mem_of_gained (valid : w.Valid) (inWorld : ∀ c ∈ calls, c.InWorld w) (placed : Placed w s)
    (declared : item ∈ w.items) (before : ¬s.Located item) (after : (s.applyAll w calls).Located item) :
    .give item.name ∈ calls := by
  induction calls generalizing s with
  | nil => exact absurd after before
  | cons c calls ih =>
    have moved := c.itemsMoved_apply w s
    by_cases already : (c.apply w s).Located item
    · rw [moved.eq_give_of_gained valid placed declared before already]
      exact List.mem_cons_self
    · exact List.mem_cons_of_mem c (ih (fun d member => inWorld d (List.mem_cons_of_mem c member))
        (placed.of_itemsMoved (inWorld c List.mem_cons_self) moved) already after)

end ApplyAll

/-! ### Every run of a session -/

namespace Session

theorem start_eq_ok {w : World} {language : Language} {session : Session}
    (started : start w language = .ok session) : w.defects = [] ∧ session = ⟨w.gameIn language, w.initialState⟩ := by
  unfold start at started
  split at started
  · next none => exact ⟨none, (Except.ok.inj started).symm⟩
  · cases started

theorem valid_of_start {w : World} {language : Language} {session : Session}
    (started : start w language = .ok session) : w.Valid :=
  World.valid_of_defects_eq_nil (start_eq_ok started).1

theorem world_run_of_start {w : World} {language : Language} {session : Session}
    (started : start w language = .ok session) (ops : List Operation) : (session.run ops).game.world = w := by
  rw [world_run, (start_eq_ok started).2]
  rfl

theorem placed_of_reaches {w : World} {language : Language} {session : Session} {s : State}
    (started : start w language = .ok session) (reached : session.Reaches s) : Placed w s := by
  obtain ⟨sound, rfl⟩ := start_eq_ok started
  obtain ⟨ops, calls, early, rfl⟩ := reached
  exact State.applyAll_induction (fun c member => inWorld_of_mem_log (early.subset member))
    (Placed.initial (World.valid_of_defects_eq_nil sound)) fun _ c inWorld placed => placed.apply c inWorld

theorem placed_run_of_start {w : World} {language : Language} {session : Session}
    (started : start w language = .ok session) (ops : List Operation) : Placed w (session.run ops).state :=
  placed_of_reaches started (session.reaches_run ops)

/-- Whatever is asked of a session, what lies in rooms and is carried are items of the world, the rooms are
    rooms of the world, and no item is in two places. From one operation to the next, an item is lost only
    by a call of `consume` with its name, and comes into the game only by such a call of `give`. -/
theorem items_accounted_for {w : World} {language : Language} {session : Session}
    (started : start w language = .ok session) (ops : List Operation) :
    let s := (session.run ops).state
    (∀ room, ∀ item ∈ s.itemsIn room, item ∈ w.items ∧ ∃ present, w.room? room = some present) ∧
    (∀ name item, s.inventory.get? name = some item → item ∈ w.items ∧ item.name = name) ∧
    ((s.lying.map LyingItem.item ++ s.inventory.values).map Item.name).Nodup ∧
    ∀ op, let t := ((session.run ops).apply op).state
      let calls := (session.run ops).calls op
      t = s.applyAll w calls ∧ ∀ item ∈ w.items,
        (s.Located item → ¬t.Located item → .consume item.name ∈ calls) ∧
        (¬s.Located item → t.Located item → .give item.name ∈ calls) := by
  obtain ⟨sound, fresh⟩ := start_eq_ok started
  have valid := World.valid_of_defects_eq_nil sound
  have world : session.game.world = w := by rw [fresh]; rfl
  have placed : Placed session.game.world session.state := by rw [fresh]; exact Placed.initial valid
  replace placed := placed.run ops
  rw [← world_run] at placed world
  generalize session.run ops = now at placed world
  subst world
  refine ⟨fun room item member => ?_, fun name item found => ?_, placed.nodup,
    fun op => ⟨state_apply, fun item declared => ⟨fun before after => ?_, fun before after => ?_⟩⟩⟩
  · have entry := State.mem_itemsIn_iff.mp member
    exact ⟨placed.declared _ entry, World.exists_room?_of_hasRoom (placed.roomed _ entry)⟩
  · obtain ⟨held, same⟩ := Catalog.get?_eq_some_iff.mp found
    exact ⟨placed.carried item held, same⟩
  · rw [state_apply] at after
    exact consume_mem_of_lost valid (fun c member => inWorld_of_mem_calls member) placed declared before after
  · rw [state_apply] at after
    exact give_mem_of_gained valid (fun c member => inWorld_of_mem_calls member) placed declared before after

/-- A lamp that is burnt is lost, and only because the action consumes it. -/
theorem items_accounted_for_burnt_lamp :
    let lamp : Item := { name := "lamp", start := some (.room "yard") }
    let yard : Room := { id := "yard", name := "Yard", exits := [⟨"n", "yard", false⟩],
                         actions := [.ofPhrases ["burn lamp"] [.consume "lamp"]] }
    let w : World := { id := "farm", startRoom := "yard", rooms := .ofList _ [yard], items := [lamp] }
    let session : Session := ⟨w.gameIn .english, w.initialState⟩
    let carrying := session.run [.command "get the lamp"]
    let burnt := carrying.apply (.command "burn lamp")
    Session.start w .english = .ok session ∧ carrying.state.Located lamp ∧ ¬burnt.state.Located lamp ∧
      .consume "lamp" ∈ carrying.calls (.command "burn lamp") := by
  intro lamp yard w session carrying burnt
  have sound : w.defects = [] := by decide +kernel
  have started : Session.start w .english = .ok session := by rw [start, sound]
  have held : carrying.state.inventory.get? "lamp" = some lamp := by decide +kernel
  have gone : burnt.state.lying = [] ∧ burnt.state.inventory.get? "lamp" = none := by decide +kernel
  have before : carrying.state.Located lamp := State.located_iff.mpr (.inr held)
  have after : ¬burnt.state.Located lamp := by simp [State.located_iff, lamp, gone]
  obtain ⟨-, -, -, accounted⟩ := items_accounted_for started [.command "get the lamp"]
  obtain ⟨-, moved⟩ := accounted (.command "burn lamp")
  exact ⟨started, before, after, (moved lamp List.mem_cons_self).1 before after⟩

end Session
end TextAdventure
