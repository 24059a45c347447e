import TextAdventure.World.Validation

/-! What a world without defects guarantees: its start room, the targets of its exits and the rooms of its
    items exist, and no two items have one name. -/

namespace TextAdventure
namespace World
variable {w : World}

/-- The guarantees of a world without defects. -/
structure Valid (w : World) : Prop where
  startRoom : w.hasRoom w.startRoom = true
  exits : ∀ room ∈ w.rooms.values, ∀ e ∈ room.exits, w.hasRoom e.target = true
  names : (w.items.map Item.name).Nodup
  starts : ∀ item ∈ w.items, ∀ id, item.start = some (.room id) → w.hasRoom id = true

theorem itemDefects_eq_nil_iff {earlier : List String} {item : Item} :
    w.itemDefects earlier item = [] ↔
      item.name ∉ earlier ∧ ∀ id, item.start = some (.room id) → w.hasRoom id = true := by
  rw [itemDefects, List.append_eq_nil_iff]
  refine and_congr (by simp) ?_
  split
  · next id start => simp [start]
  · next other => exact iff_of_true rfl fun id start => (other id start).elim

theorem itemsDefects_eq_nil_iff {earlier : List String} {items : List Item} :
    w.itemsDefects earlier items = [] ↔ (items.map Item.name).Nodup ∧ (∀ item ∈ items, item.name ∉ earlier) ∧
      ∀ item ∈ items, ∀ id, item.start = some (.room id) → w.hasRoom id = true := by
  induction items generalizing earlier with
  | nil => simp [itemsDefects]
  | cons item items ih =>
    rw [itemsDefects, List.append_eq_nil_iff, itemDefects_eq_nil_iff, ih, List.map_cons, List.nodup_cons,
      List.forall_mem_cons, List.forall_mem_cons]
    constructor
    · rintro ⟨⟨new, here⟩, once, news, starts⟩
      refine ⟨⟨fun again => ?_, once⟩, ⟨new, fun x member old => news x member (List.mem_cons_of_mem _ old)⟩, here, starts⟩
      obtain ⟨x, member, same⟩ := List.mem_map.mp again
      exact news x member (same ▸ List.mem_cons_self)
    · rintro ⟨⟨new, once⟩, ⟨first, news⟩, here, starts⟩
      refine ⟨⟨first, here⟩, once, fun x member old => ?_, starts⟩
      rcases List.mem_cons.mp old with same | old
      · exact new (same ▸ List.mem_map_of_mem member)
      · exact news x member old

theorem actionDefects_eq_nil_iff {scope : Scope} {a : Action} :
    w.actionDefects scope a = [] ↔ a.phrases ≠ [] ∧ ∀ name ∈ a.requires, ∃ item, w.item? name = some item := by
  rw [actionDefects, List.append_eq_nil_iff, List.map_eq_nil_iff, List.filter_eq_nil_iff]
  simp [Option.ne_none_iff_exists']

theorem exitDefects_eq_nil_iff {room : Room} :
    w.exitDefects room = [] ↔ ∀ e ∈ room.exits, w.hasRoom e.target = true := by
  rw [exitDefects, List.map_eq_nil_iff, List.filter_eq_nil_iff]
  simp

/-- Beside its guarantees, a world without defects has actions only that have phrases and require items of it. -/
theorem defects_eq_nil_iff : w.defects = [] ↔ w.Valid ∧
    ∀ a, (∃ room ∈ w.rooms.values, a ∈ room.actions) ∨ (∃ item ∈ w.items, a ∈ item.actions) →
      a.phrases ≠ [] ∧ ∀ name ∈ a.requires, ∃ item, w.item? name = some item := by
  have rooms (present : w.hasRoom w.startRoom = true) : w.rooms.isEmpty = false := by
    obtain ⟨room, member, -⟩ := Catalog.contains_iff.mp present
    exact List.isEmpty_eq_false_iff.mpr (List.ne_nil_of_mem member)
  simp only [defects, List.append_eq_nil_iff, List.flatMap_eq_nil_iff, actionDefects_eq_nil_iff,
    exitDefects_eq_nil_iff, itemsDefects_eq_nil_iff]
  constructor
  · rintro ⟨⟨⟨⟨⟨-, start⟩, exits⟩, names, -, starts⟩, roomActions⟩, itemActions⟩
    refine ⟨⟨by simpa using start, exits, names, starts⟩, ?_⟩
    rintro a (⟨room, present, offered⟩ | ⟨item, declared, offered⟩)
    · exact roomActions room present a offered
    · exact itemActions item declared a offered
  · rintro ⟨valid, actions⟩
    refine ⟨⟨⟨⟨⟨by simp [rooms valid.startRoom], by simp [valid.startRoom]⟩, valid.exits⟩, valid.names, nofun, valid.starts⟩,
      fun room present a offered => ?_⟩, fun item declared a offered => ?_⟩
    · exact actions a (.inl ⟨room, present, offered⟩)
    · exact actions a (.inr ⟨item, declared, offered⟩)

theorem valid_of_defects_eq_nil (h : w.defects = []) : w.Valid := (defects_eq_nil_iff.mp h).1

theorem mem_rooms_of_room? {id : String} {room : Room} (h : w.room? id = some room) : room ∈ w.rooms.values :=
  (Catalog.get?_eq_some_iff.mp h).1

/-- A room that the world has is found under its own id. -/
theorem room?_id_of_room? {w : World} {id : String} {room : Room} (h : w.room? id = some room) :
    w.room? room.id = some room := by
  rw [id_of_room? h, h]

theorem hasRoom_of_room? {w : World} {id : String} {room : Room} (h : w.room? id = some room) :
    w.hasRoom id = true := by
  rw [hasRoom_eq_isSome_room?, h, Option.isSome_some]

theorem exists_room?_of_hasRoom {id : String} (h : w.hasRoom id = true) : ∃ room, w.room? id = some room :=
  Option.isSome_iff_exists.mp h

/-- In a valid world an exit leads to a room. -/
theorem Valid.exists_target (valid : w.Valid) {id : String} {room : Room} (present : w.room? id = some room) {e : Exit}
    (declared : e ∈ room.exits) : ∃ next, w.room? e.target = some next :=
  exists_room?_of_hasRoom (valid.exits room (mem_rooms_of_room? present) e declared)

end World
end TextAdventure
