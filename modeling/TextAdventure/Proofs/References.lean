import TextAdventure.Proofs.LoadedEffects

/-! References that are spelled like their declarations. Most of them are accepted as they stand, but three kinds
    are compared in another form than that of the declaration: the name of an item that an effect gives or consumes
    is not trimmed, but the declared name is; the direction that an effect opens or blocks is in lowercase, but of
    the declared one only A to Z are; and the room where an item starts is trimmed, but the declared id is not.
    So a world whose references are all spelled like their declarations can be played exactly if these comparisons
    do not matter in it (`WorldFile.Exact.playable_iff_plain`). -/

namespace TextAdventure
open Text

/-! ### Files without a wrong reference -/

def WorldFile.actions (file : WorldFile) : List ActionDecl :=
  file.rooms.flatMap RoomDecl.actions ++ file.items.flatMap ItemDecl.actions

def WorldFile.roomIds (file : WorldFile) : List String := file.rooms.map RoomDecl.id

/-- The names of the items, as they are written. -/
def WorldFile.itemNames (file : WorldFile) : List String := file.items.map ItemDecl.name

/-- Nothing is blank that may not be, nothing is declared twice, and each reference is a declared id, item name or
    direction character for character. -/
structure WorldFile.Exact (file : WorldFile) : Prop where
  worldId : allBlank file.header.id = false
  startRoom : allBlank file.header.startRoom = false
  distinct : file.roomIds.Nodup
  phrases : ∀ a ∈ file.actions, ∃ phrase ∈ a.phrases, allBlank phrase = false
  named : ∀ i ∈ file.items, allBlank i.name = false
  names : (file.items.map fun i => fold i.name).Nodup
  start : file.header.startRoom ∈ file.roomIds
  targets : ∀ r ∈ file.rooms, ∀ x ∈ r.exits, x.target ∈ file.roomIds
  goTo : ∀ e ∈ file.effects, ∀ id ∈ e.goTo, id ∈ file.roomIds
  items : ∀ e ∈ file.effects, ∀ name ∈ e.give ++ e.consume, name ∈ file.itemNames
  requires : ∀ a ∈ file.actions, ∀ name ∈ a.requires, name ∈ file.itemNames
  starts : ∀ i ∈ file.items, ∀ text ∈ i.start, text = "inventory" ∨ ∃ id ∈ file.roomIds, text = "room:" ++ id
  exits : ∀ r ∈ file.rooms, ∀ e ∈ r.effects, ∀ d ∈ e.unblock ++ e.block, d ∈ r.exits.map ExitDecl.direction

/-- What effects give and consume is written without blanks around it, what effects of a room open and block is in
    lowercase the direction of an exit up to the case of A to Z, and the rooms where items start are rooms also when
    trimmed. -/
structure WorldFile.Plain (file : WorldFile) : Prop where
  items : ∀ e ∈ file.effects, ∀ name ∈ e.give ++ e.consume, trim name = name
  exits : ∀ r ∈ file.rooms, ∀ e ∈ r.effects, ∀ d ∈ e.unblock ++ e.block,
    ∃ x ∈ r.exits, equalUpToAsciiCase (trim x.direction) (fold d) = true
  starts : ∀ i ∈ file.items, ∀ id ∈ file.roomIds, i.start = some ("room:" ++ id) → trim id ≠ "" ∧ trim id ∈ file.roomIds

/-! ### Start locations -/

theorem trim_room (id : String) : trim ("room:" ++ id) = "room:" ++ String.ofList (id.toList.rdropWhile isBlank) := by
  have letters : ['r', 'o', 'o', 'm', ':'].any isBlank = false := by decide
  have kept := rdropWhile_append letters id.toList
  apply String.toList_injective
  rw [toList_trim, String.toList_append, String.toList_append, String.toList_ofList, String.toList_ofList, ← kept]
  rfl

theorem Place.ofText_inventory : Place.ofText "inventory" = .ok .inventory := by decide +kernel

/-- Of the id of a start location the blanks around it do not count. -/
theorem Place.ofText_room (id : String) : Place.ofText ("room:" ++ id) =
    if trim id = "" then .error (.startWithoutRoom (trim ("room:" ++ id))) else .ok (.room (trim id)) := by
  have trimmed : trim (String.ofList (id.toList.rdropWhile isBlank)) = trim id := by
    rw [← String.toList_inj, toList_trim, toList_trim, String.toList_ofList, trimChars_rdropWhile]
  have other : equalUpToAsciiCase (trim ("room:" ++ id)) "inventory" = false := by
    rw [trim_room, ← Bool.not_eq_true, equalUpToAsciiCase_iff, String.toList_append]
    simp
  have rest : afterStart? "room:" (trim ("room:" ++ id)) = some (String.ofList (id.toList.rdropWhile isBlank)) := by
    rw [trim_room, afterStart?]
    simp
  rw [Place.ofText]
  simp only [other, rest, trimmed, Bool.false_eq_true, if_false, beq_iff_eq]

/-! ### Playable files are plain -/

namespace WorldFile
variable {file : WorldFile} {r : RoomDecl} {i : ItemDecl} {e : EffectDecl}

theorem hasRoom_iff {id : String} : file.hasRoom id = true ↔ id ∈ file.roomIds := by
  simp [hasRoom, roomIds]

theorem exitsOf_eq (distinct : file.roomIds.Nodup) (declared : r ∈ file.rooms) : file.exitsOf r.id = r.exits := by
  have isSome : (file.rooms.reverse.find? (·.id == r.id)).isSome = true := by
    simpa using ⟨r, declared, rfl⟩
  obtain ⟨last, found⟩ := Option.isSome_iff_exists.mp isSome
  have member := List.mem_reverse.mp (List.mem_of_find?_eq_some found)
  -- No other room has this id, so the last of this id is the only one.
  have same : last = r := List.inj_on_of_nodup_map distinct member declared (by simpa using List.find?_some found)
  rw [exitsOf, List.findRev?_eq_find?_reverse, found, same, Option.map_some, Option.getD_some]

theorem mem_effects_of_room (declared : r ∈ file.rooms) (listed : e ∈ r.effects) : e ∈ file.effects :=
  List.mem_append_left _ (List.mem_flatMap.mpr ⟨r, declared, listed⟩)

theorem mem_effects_of_item (declared : i ∈ file.items) (listed : e ∈ i.effects) : e ∈ file.effects :=
  List.mem_append_right _ (List.mem_flatMap.mpr ⟨i, declared, listed⟩)

theorem mem_actions_of_room {a : ActionDecl} (declared : r ∈ file.rooms) (offered : a ∈ r.actions) : a ∈ file.actions :=
  List.mem_append_left _ (List.mem_flatMap.mpr ⟨r, declared, offered⟩)

theorem mem_actions_of_item {a : ActionDecl} (declared : i ∈ file.items) (offered : a ∈ i.actions) : a ∈ file.actions :=
  List.mem_append_right _ (List.mem_flatMap.mpr ⟨i, declared, offered⟩)

theorem Sound.exists_scope (sound : file.Sound) (listed : e ∈ file.effects) : ∃ scope, e.Sound file scope := by
  rcases List.mem_append.mp listed with ofRoom | ofItem
  · obtain ⟨r, declared, listed⟩ := List.mem_flatMap.mp ofRoom
    exact ⟨_, (sound.rooms r declared).of_mem_effects listed⟩
  · obtain ⟨i, declared, listed⟩ := List.mem_flatMap.mp ofItem
    exact ⟨_, (sound.items i declared).of_mem_effects listed⟩

theorem Sound.plain (sound : file.Sound) (valid : file.world.Valid) : file.Plain where
  items e listed name member := by
    obtain ⟨scope, accepted⟩ := sound.exists_scope listed
    obtain ⟨i, -, alike⟩ := List.any_eq_true.mp (accepted.items name member)
    exact trim_eq_self_of_equalUpToAsciiCase alike
  exits r declared e listed d member := by
    have accepted := ((sound.rooms r declared).of_mem_effects listed).exits r.id rfl d member
    rw [hasExit, exitsOf_eq sound.distinct declared] at accepted
    exact List.any_eq_true.mp accepted
  starts i declared id _ start := by
    obtain ⟨place, accepted⟩ := (sound.items i declared).start _ start
    rw [Place.ofText_room] at accepted
    split at accepted
    · cases accepted
    · next named =>
      have stored : i.item.start = some (.room (trim id)) := by
        simp [ItemDecl.item, start, Place.ofText_room, named, Except.toOption]
      have present := valid.starts i.item (List.mem_map_of_mem declared) (trim id) stored
      exact ⟨named, hasRoom_iff.mp (hasRoom_world file (trim id) ▸ present)⟩

/-! ### Plain files are playable -/

section Playable
variable (spelled : file.Exact) (plain : file.Plain)
include spelled plain

theorem Exact.hasItem {name : String} (listed : e ∈ file.effects) (member : name ∈ e.give ++ e.consume) :
    file.hasItem name = true := by
  obtain ⟨i, declared, rfl⟩ := List.mem_map.mp (spelled.items e listed name member)
  refine List.any_eq_true.mpr ⟨i, declared, ?_⟩
  rw [plain.items e listed i.name member]
  exact equalUpToAsciiCase_refl i.name

theorem Exact.sound_roomEffect (declared : r ∈ file.rooms) (listed : e ∈ r.effects) : e.Sound file (.room r.id) where
  goTo id leads := hasRoom_iff.mpr (spelled.goTo e (mem_effects_of_room declared listed) id leads)
  items _ member := spelled.hasItem plain (mem_effects_of_room declared listed) member
  exits id same d member := by
    cases same
    rw [hasExit, exitsOf_eq spelled.distinct declared]
    exact List.any_eq_true.mpr (plain.exits r declared e listed d member)

theorem Exact.sound_itemEffect (declared : i ∈ file.items) (listed : e ∈ i.effects) :
    e.Sound file (.item (fold i.name)) where
  goTo id leads := hasRoom_iff.mpr (spelled.goTo e (mem_effects_of_item declared listed) id leads)
  items _ member := spelled.hasItem plain (mem_effects_of_item declared listed) member
  exits _ other := nomatch other

theorem Exact.ofText_start {text : String} (declared : i ∈ file.items) (start : i.start = some text) :
    Place.ofText text = .ok .inventory ∨ ∃ id ∈ file.roomIds, Place.ofText text = .ok (.room id) := by
  rcases spelled.starts i declared text start with rfl | ⟨id, known, rfl⟩
  · exact .inl Place.ofText_inventory
  · obtain ⟨named, present⟩ := plain.starts i declared id known start
    exact .inr ⟨trim id, present, by rw [Place.ofText_room, if_neg named]⟩

theorem Exact.sound : file.Sound where
  worldId := spelled.worldId
  startRoom := spelled.startRoom
  distinct := spelled.distinct
  rooms r declared := by
    refine ⟨fun a offered => ⟨spelled.phrases a (mem_actions_of_room declared offered), ?_⟩, fun e hook => ?_⟩
    · exact spelled.sound_roomEffect plain declared (List.mem_append_left _ (List.mem_map_of_mem offered))
    · exact spelled.sound_roomEffect plain declared (List.mem_append_right _ hook)
  items i declared := by
    refine ⟨fun blank => ?_, fun text start => ?_, fun a offered => ⟨?_, ?_⟩⟩
    · have named := spelled.named i declared
      rw [fold_eq_empty_iff.mp blank] at named
      cases named
    · rcases spelled.ofText_start plain declared start with place | ⟨id, -, place⟩ <;> exact ⟨_, place⟩
    · exact spelled.phrases a (mem_actions_of_item declared offered)
    · exact spelled.sound_itemEffect plain declared (List.mem_map_of_mem offered)

theorem Exact.valid : file.world.Valid where
  startRoom := by rw [hasRoom_world, hasRoom_iff]; exact spelled.start
  exits room present x member := by
    obtain ⟨r, declared, rfl⟩ := exists_of_mem_rooms_world present
    obtain ⟨x, listed, rfl⟩ := List.mem_map.mp member
    rw [hasRoom_world, hasRoom_iff]
    exact spelled.targets r declared x listed
  names := by
    have named : file.world.items.map Item.name = file.items.map fun i => fold i.name := List.map_map
    rw [named]
    exact spelled.names
  starts item stored id start := by
    obtain ⟨i, declared, rfl⟩ := List.mem_map.mp stored
    obtain ⟨text, written, place⟩ := Option.bind_eq_some_iff.mp start
    rw [hasRoom_world, hasRoom_iff]
    rcases spelled.ofText_start plain declared written with inHands | ⟨other, present, inRoom⟩
    · rw [inHands] at place
      cases place
    · rw [inRoom] at place
      cases place
      exact present

-- What an action requires is folded before it is compared, so its spelling does not matter.
omit plain in
theorem Exact.fulfillable {a : ActionDecl} (offered : a ∈ file.actions) :
    a.action.phrases ≠ [] ∧ ∀ name ∈ a.action.requires, ∃ item, file.world.item? name = some item := by
  constructor
  · obtain ⟨phrase, member, -⟩ := spelled.phrases a offered
    exact List.ne_nil_of_mem member
  · intro name member
    obtain ⟨written, listed, rfl⟩ := List.mem_map.mp member
    obtain ⟨i, declared, rfl⟩ := List.mem_map.mp (spelled.requires a offered written listed)
    exact exists_item?_of_fold_eq declared rfl

theorem Exact.defects_eq_nil : file.world.defects = [] := by
  refine World.defects_eq_nil_iff.mpr ⟨spelled.valid plain, fun action offered => ?_⟩
  rcases offered with ⟨room, present, offers⟩ | ⟨item, stored, offers⟩
  · obtain ⟨r, declared, rfl⟩ := exists_of_mem_rooms_world present
    obtain ⟨a, offered, rfl⟩ := List.mem_map.mp offers
    exact spelled.fulfillable (mem_actions_of_room declared offered)
  · obtain ⟨i, declared, rfl⟩ := List.mem_map.mp stored
    obtain ⟨a, offered, rfl⟩ := List.mem_map.mp offers
    exact spelled.fulfillable (mem_actions_of_item declared offered)

end Playable

/-- A file whose references are all spelled like their declarations is loaded as a world without defects exactly if
    the three comparisons that change the spelling of one side only do not tell them apart. -/
theorem Exact.playable_iff_plain (spelled : file.Exact) :
    (∃ w, World.ofFile file = .ok w ∧ w.defects = []) ↔ file.Plain := by
  constructor
  · rintro ⟨w, loaded, none⟩
    obtain ⟨sound, rfl⟩ := World.ofFile_eq_ok_iff.mp loaded
    exact sound.plain (World.valid_of_defects_eq_nil none)
  · intro plain
    exact ⟨file.world, World.ofFile_eq_ok_iff.mpr ⟨spelled.sound plain, rfl⟩, spelled.defects_eq_nil plain⟩

/-- Capitals do no harm in the name of an item, nor do blanks around a start location. -/
theorem Exact.playable_iff_plain_hall :
    let opens : EffectDecl := { unblock := ["NORTH", "été"], give := ["ÉPÉE"], goTo := some "hall" }
    let file : WorldFile := {
      header := { id := "house", name := "House", startRoom := "hall" }
      rooms := [{ id := "hall", name := "Hall", exits := [⟨"NORTH", "hall", true⟩, ⟨"été", "hall", true⟩],
                  actions := [{ phrases := ["knock"], requires := ["ÉPÉE"], effect := opens }] }]
      items := [{ name := "ÉPÉE", start := some "room:hall" }] }
    file.Exact ∧ ∃ w, World.ofFile file = .ok w ∧ w.defects = [] := by
  intro opens file
  have spelled : file.Exact := by constructor <;> decide +kernel
  have plain : file.Plain := by constructor <;> decide +kernel
  exact ⟨spelled, spelled.playable_iff_plain.mpr plain⟩

/-- A direction with an accented capital, the name of an item between blanks, and the id of a room between blanks. -/
theorem exact_not_playable :
    let door : WorldFile := {
      header := { id := "house", name := "House", startRoom := "hall" }
      rooms := [{ id := "hall", name := "Hall", exits := [⟨"É", "hall", true⟩],
                  actions := [{ phrases := ["knock"], effect := { unblock := ["É"] } }] }] }
    let lamp : WorldFile := {
      header := { id := "house", name := "House", startRoom := "hall" }
      rooms := [{ id := "hall", name := "Hall", onEnter := [{ give := [" lamp "] }] }]
      items := [{ name := " lamp " }] }
    let cellar : WorldFile := {
      header := { id := "house", name := "House", startRoom := " hall " }
      rooms := [{ id := " hall ", name := "Hall" }]
      items := [{ name := "key", start := some "room: hall " }] }
    (door.Exact ∧ (World.ofFile door).isOk = false) ∧ (lamp.Exact ∧ (World.ofFile lamp).isOk = false) ∧
      (cellar.Exact ∧ ∀ w, World.ofFile cellar = .ok w → w.defects ≠ []) := by
  intro door lamp cellar
  refine ⟨⟨by constructor <;> decide +kernel, by decide +kernel⟩, ⟨by constructor <;> decide +kernel, by decide +kernel⟩,
    by constructor <;> decide +kernel, fun w loaded => ?_⟩
  obtain ⟨-, rfl⟩ := World.ofFile_eq_ok_iff.mp loaded
  decide +kernel

end WorldFile
end TextAdventure
