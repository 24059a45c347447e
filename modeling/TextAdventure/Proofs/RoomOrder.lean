import TextAdventure.Proofs.LoadedEffects
import Mathlib.Data.List.Nodup

/-! The order of rooms. A file may declare its rooms in any order, and a program may add them to a world in any
    order: references may lead forward, no room counts more than another, and no two have one id. So a file whose
    rooms are put into another order is accepted as before and declares the same world
    (`WorldFile.Reordered.ofFile_eq_ok_iff`). -/

namespace TextAdventure
open Text

/-! ### Catalogs are filled in any order -/

namespace Catalog
variable {α : Type} {key : α → String} {c : Catalog key} {xs ys : List α}

theorem insert_comm {x y : α} (other : key x ≠ key y) : (c.insert x).insert y = (c.insert y).insert x := by
  refine ext_get? fun k => ?_
  simp only [get?_insert]
  by_cases first : key x = k
  · rw [if_pos first, if_pos first, if_neg fun second => other (first.trans second.symm)]
  · rw [if_neg first, if_neg first]

theorem insertAll_perm (perm : xs.Perm ys) (distinct : (xs.map key).Nodup) : c.insertAll xs = c.insertAll ys := by
  refine perm.foldl_eq' (fun x first y second d => ?_) c
  by_cases same : key x = key y
  · obtain rfl := List.inj_on_of_nodup_map distinct first second same
    rfl
  · exact insert_comm same

/-- Whatever the order in which the values of a catalog are given, they make up the same catalog. -/
theorem ofList_of_perm (perm : xs.Perm c.values) : ofList key xs = c := by
  have reversed : xs.Perm c.values.reverse := perm.trans (List.reverse_perm _).symm
  rw [ofList, insertAll_perm reversed ((perm.map key).nodup_iff.mpr c.nodup_keys), ← ofList]
  refine ext_get? fun k => ?_
  rw [get?_ofList, List.findRev?_eq_find?_reverse, List.reverse_reverse, get?]

end Catalog

/-! ### Files -/

/-- `file'` declares the rooms of `file` in some order, and everything else as `file` does. -/
structure WorldFile.Reordered (file file' : WorldFile) : Prop where
  rooms : file'.rooms.Perm file.rooms
  others : file' = { file with rooms := file'.rooms }

namespace WorldFile.Reordered
variable {file file' : WorldFile} (reordered : file.Reordered file')

include reordered

theorem symm : file'.Reordered file where
  rooms := reordered.rooms.symm
  others := by rw [reordered.others]

theorem header : file'.header = file.header := by rw [reordered.others]

theorem items : file'.items = file.items := by rw [reordered.others]

theorem nodup_iff : (file'.rooms.map RoomDecl.id).Nodup ↔ (file.rooms.map RoomDecl.id).Nodup :=
  (reordered.rooms.map RoomDecl.id).nodup_iff

theorem hasRoom (id : String) : file'.hasRoom id = file.hasRoom id := reordered.rooms.any_eq

theorem hasItem (name : String) : file'.hasItem name = file.hasItem name := by
  rw [WorldFile.hasItem, reordered.items, WorldFile.hasItem]

/-- Of rooms with one id the last would count, but there are none. -/
theorem hasExit (distinct : (file.rooms.map RoomDecl.id).Nodup) (room direction : String) :
    file'.hasExit room direction = file.hasExit room direction := by
  have tables : Catalog.ofList RoomDecl.id file'.rooms = Catalog.ofList RoomDecl.id file.rooms :=
    Catalog.insertAll_perm reordered.rooms (reordered.nodup_iff.mpr distinct)
  rw [WorldFile.hasExit, exitsOf, ← Catalog.get?_ofList, tables, Catalog.get?_ofList, ← exitsOf, ← WorldFile.hasExit]

section Sound
variable (distinct : (file.rooms.map RoomDecl.id).Nodup)

include distinct

theorem sound_effect {scope : Scope} {e : EffectDecl} (sound : e.Sound file scope) : e.Sound file' scope where
  goTo id leads := by rw [reordered.hasRoom, sound.goTo id leads]
  items name listed := by rw [reordered.hasItem, sound.items name listed]
  exits id here direction listed := by rw [reordered.hasExit distinct, sound.exits id here direction listed]

theorem sound_action {scope : Scope} {a : ActionDecl} (sound : a.Sound file scope) : a.Sound file' scope where
  phrases := sound.phrases
  effect := reordered.sound_effect distinct sound.effect

theorem sound_room {r : RoomDecl} (sound : r.Sound file) : r.Sound file' where
  actions a offered := reordered.sound_action distinct (sound.actions a offered)
  onEnter e listed := reordered.sound_effect distinct (sound.onEnter e listed)

theorem sound_item {i : ItemDecl} (sound : i.Sound file) : i.Sound file' where
  name := sound.name
  start := sound.start
  actions a offered := reordered.sound_action distinct (sound.actions a offered)

theorem world_eq : file'.world = file.world := by
  have rooms : Catalog.ofList Room.id (file'.rooms.map RoomDecl.room) = .ofList Room.id (file.rooms.map RoomDecl.room) := by
    refine Catalog.insertAll_perm (reordered.rooms.map _) ?_
    rw [List.map_map]
    exact reordered.nodup_iff.mpr distinct
  rw [world, rooms, reordered.others]
  rfl

end Sound

theorem sound (sound : file.Sound) : file'.Sound where
  worldId := by rw [reordered.header, sound.worldId]
  startRoom := by rw [reordered.header, sound.startRoom]
  distinct := reordered.nodup_iff.mpr sound.distinct
  rooms r declared := reordered.sound_room sound.distinct (sound.rooms r (reordered.rooms.mem_iff.mp declared))
  items i declared := reordered.sound_item sound.distinct (sound.items i (reordered.items ▸ declared))

/-- A file is accepted whatever the order of its rooms, and declares the same world. -/
theorem ofFile_eq_ok_iff {w : World} : World.ofFile file' = .ok w ↔ World.ofFile file = .ok w := by
  rw [World.ofFile_eq_ok_iff, World.ofFile_eq_ok_iff]
  constructor
  · rintro ⟨sound', rfl⟩
    have sound := reordered.symm.sound sound'
    exact ⟨sound, reordered.world_eq sound.distinct⟩
  · rintro ⟨sound, rfl⟩
    exact ⟨reordered.sound sound, (reordered.world_eq sound.distinct).symm⟩

end WorldFile.Reordered

/-! ### Worlds that are built -/

namespace World

/-- The world with rooms and items added one after the other. -/
def build (w : World) (parts : List (Room ⊕ Item)) : World :=
  parts.foldl (fun w part => part.elim w.addRoom w.addItem) w

theorem build_eq (w : World) (parts : List (Room ⊕ Item)) :
    w.build parts = { w with
      rooms := w.rooms.insertAll (parts.filterMap Sum.getLeft?)
      items := w.items ++ parts.filterMap Sum.getRight? } := by
  induction parts generalizing w with
  | nil => simp [build, Catalog.insertAll]
  | cons part parts ih =>
    rw [build, List.foldl_cons, ← build, ih]
    cases part with
    | inl room => rfl
    | inr item =>
      rw [Sum.elim_inr, addItem, List.append_assoc]
      rfl

/-- Rooms of distinct ids may be added in any order, before, between and after the items. -/
theorem build_perm (w : World) {parts parts' : List (Room ⊕ Item)}
    (rooms : (parts'.filterMap Sum.getLeft?).Perm (parts.filterMap Sum.getLeft?))
    (distinct : ((parts.filterMap Sum.getLeft?).map Room.id).Nodup)
    (items : parts'.filterMap Sum.getRight? = parts.filterMap Sum.getRight?) : w.build parts' = w.build parts := by
  rw [build_eq, build_eq, Catalog.insertAll_perm rooms ((rooms.map Room.id).nodup_iff.mpr distinct), items]

end World
end TextAdventure
