import TextAdventure.Proofs.Answers
import TextAdventure.Proofs.LoadedEffects

/-! Taking and dropping undo each other. An item that is taken and dropped again comes to the end of what lies in the room,
    and one that is dropped and taken again is where it was; nothing else changes but the output. This is so because no
    item is in two places: what is taken from the room is the item of this name, and there is no other in the inventory
    whose place it could take (`Session.take_drop_restores`). -/

namespace TextAdventure

/-- From `s` to `t` the player is in the same place with the same things, and no exit and no room but this one differs. -/
structure State.Returned (s : State) (room : String) (t : State) : Prop where
  here : t.here = s.here
  blocked : t.blocked = s.blocked
  inventory : t.inventory = s.inventory
  elsewhere : ∀ other, other ≠ room → t.itemsIn other = s.itemsIn other

section Items
variable {w : World} {s t u : State} {item : Item}

/-- Taking an item erases it from the list of its room, where it stands once. -/
theorem State.Taken.itemsIn_eq_erase {id : String} (taken : s.Taken id item t) :
    t.itemsIn id = (s.itemsIn id).erase item := by
  obtain ⟨⟨before, after, split, left⟩, -⟩ := taken.itemsIn
  have once : item ∉ before := by
    intro again
    have lies : item ∈ t.itemsIn id := left ▸ List.mem_append_left after again
    exact taken.gone _ (mem_itemsIn_iff.mp lies) rfl
  rw [left, split, List.erase_append_right _ once, List.erase_cons_head]

theorem State.Taken.returned {id : String} (taken : s.Taken id item t) (dropped : t.Dropped id item u) : s.Returned id u where
  here := dropped.here.trans taken.here
  blocked := dropped.blocked.trans taken.blocked
  inventory := by rw [dropped.inventory, taken.inventory, Catalog.erase_insert taken.new]
  elsewhere other apart := (dropped.itemsIn.2 other apart).trans (taken.itemsIn.2 other apart)

theorem State.Dropped.returned {id : String} (dropped : s.Dropped id item t) (taken : t.Taken id item u) : s.Returned id u where
  here := taken.here.trans dropped.here
  blocked := taken.blocked.trans dropped.blocked
  inventory := by rw [taken.inventory, dropped.inventory, Catalog.insert_erase dropped.held]
  elsewhere other apart := (taken.itemsIn.2 other apart).trans (dropped.itemsIn.2 other apart)

/-- What is dropped and taken again has left no trace in the room. -/
theorem State.Dropped.itemsIn_of_taken {id : String} (dropped : s.Dropped id item t) (taken : t.Taken id item u) :
    u.itemsIn id = s.itemsIn id := by
  have absent : item ∉ s.itemsIn id := fun lies => dropped.new _ (mem_itemsIn_iff.mp lies) rfl
  rw [taken.itemsIn_eq_erase, dropped.itemsIn.1, List.erase_append_right _ absent, List.erase_cons_head, List.append_nil]

end Items

namespace Session
variable {file : WorldFile} {w : World} {language : Language} {session : Session} {s : State}

/-- Wherever a session of a loaded world has come, in the room where the player is: an item that lies there and can be got,
    taken and dropped again by its name, is moved to the end of the room's list; one that is carried and can be got, dropped
    and taken again, is where it was. All other lists, what is carried, the flags and the player's place are restored. -/
theorem take_drop_restores (loaded : World.ofFile file = .ok w) (started : start w language = .ok session)
    (reached : session.Reaches s) {room : Room} (here : w.room? s.here = some room) :
    (∀ item ∈ s.itemsIn room.id, item.gettable = true →
      let u := (s.take room item.name).drop room item.name
      s.Returned room.id u ∧ u.itemsIn room.id = (s.itemsIn room.id).erase item ++ [item]) ∧
    ∀ item ∈ s.inventory.values, item.gettable = true →
      let u := (s.drop room item.name).take room item.name
      s.Returned room.id u ∧ u.itemsIn room.id = s.itemsIn room.id := by
  obtain ⟨sound, rfl⟩ := World.ofFile_eq_ok_iff.mp loaded
  have placed : Placed file.world s := placed_of_reaches started reached
  have present : file.world.room? room.id = some room := World.room?_id_of_room? here
  have named {item : Item} (declared : item ∈ file.world.items) : item.name ≠ "" := by
    obtain ⟨i, listed, rfl⟩ := List.mem_map.mp declared
    exact (sound.items i listed).name
  constructor
  · intro item lies gettable
    have declared := placed.declared _ (State.mem_itemsIn_iff.mp lies)
    obtain ⟨taken, -⟩ := State.take_of_mem placed lies gettable (named declared)
    have placed' : Placed file.world (s.take room item.name) := placed.apply (.take room item.name) present
    have dropped : (s.take room item.name).Dropped room.id item ((s.take room item.name).drop room item.name) :=
      State.dropped_drop placed' taken.held (named declared)
    refine ⟨taken.returned dropped, ?_⟩
    rw [dropped.itemsIn.1, taken.itemsIn_eq_erase]
  · intro item carried gettable
    have declared := placed.carried item carried
    have dropped : s.Dropped room.id item (s.drop room item.name) :=
      State.dropped_drop placed (Catalog.get?_key_eq_some_iff.mpr carried) (named declared)
    have placed' : Placed file.world (s.drop room item.name) := placed.apply (.drop room item.name) present
    have lies : item ∈ (s.drop room item.name).itemsIn room.id := by
      rw [dropped.itemsIn.1]
      exact List.mem_append_right _ List.mem_cons_self
    obtain ⟨taken, -⟩ := State.take_of_mem placed' lies gettable (named declared)
    exact ⟨dropped.returned taken, dropped.itemsIn_of_taken taken⟩

/-- The lamp is put down behind the bell, and the key goes back where it was. -/
theorem take_drop_restores_lamp :
    let hall : RoomDecl := { id := "hall", name := "Hall", exits := [⟨"n", "hall", false⟩] }
    let lamp : ItemDecl := { name := "Lamp", start := some "room:hall" }
    let bell : ItemDecl := { name := "bell", start := some "room:hall" }
    let key : ItemDecl := { name := "key", start := some "inventory" }
    let file : WorldFile := { header := { id := "house", name := "House", startRoom := "hall" }, rooms := [hall],
                              items := [lamp, bell, key] }
    let session : Session := ⟨file.world.gameIn .english, file.world.initialState⟩
    let s := (session.run [.opening]).state
    let lampBack := (s.take hall.room lamp.item.name).drop hall.room lamp.item.name
    let keyBack := (s.drop hall.room key.item.name).take hall.room key.item.name
    World.ofFile file = .ok file.world ∧ Session.start file.world .english = .ok session ∧
      file.world.room? s.here = some hall.room ∧ s.itemsIn hall.room.id = [lamp.item, bell.item] ∧
      s.inventory.values = [key.item] ∧ s.Returned hall.room.id lampBack ∧
      lampBack.itemsIn hall.room.id = [bell.item, lamp.item] ∧ s.Returned hall.room.id keyBack ∧
      keyBack.itemsIn hall.room.id = [lamp.item, bell.item] := by
  intro hall lamp bell key file session s lampBack keyBack
  have loaded : World.ofFile file = .ok file.world := World.ofFile_eq_ok_of_isOk (by decide +kernel)
  have sound : file.world.defects = [] := by decide +kernel
  have started : Session.start file.world .english = .ok session := by rw [start, sound]
  have reached : session.Reaches s := session.reaches_run [.opening]
  have here : file.world.room? s.here = some hall.room := by decide +kernel
  have lying : s.itemsIn hall.room.id = [lamp.item, bell.item] := by decide +kernel
  have carried : s.inventory.values = [key.item] := by decide +kernel
  obtain ⟨taking, dropping⟩ := take_drop_restores loaded started reached here
  obtain ⟨lampReturned, lampLies⟩ := taking lamp.item (lying ▸ List.mem_cons_self) rfl
  obtain ⟨keyReturned, keyLies⟩ := dropping key.item (carried ▸ List.mem_cons_self) rfl
  rw [lying, List.erase_cons_head] at lampLies
  rw [lying] at keyLies
  exact ⟨loaded, started, here, lying, carried, lampReturned, lampLies, keyReturned, keyLies⟩

end Session
end TextAdventure
