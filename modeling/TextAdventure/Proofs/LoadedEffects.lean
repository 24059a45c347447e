import TextAdventure.Proofs.Firings
import TextAdventure.Proofs.Items
import TextAdventure.Proofs.LetterCase
import TextAdventure.Proofs.Loading

/-! What loaded effects refer to. Loading compares the names as they are written, up to the case of A to Z;
    what it makes of them is trimmed and in lowercase. A name that passes the comparison is made into the stored
    name of what it was compared with, so in a session of a loaded world no effect that its file declares asks
    for a room, an item or, on a room, an exit that is not there (`Session.loaded_effects_refer`). -/

namespace TextAdventure
open Text

/-! ### What a file declares and what the world has -/

def RoomDecl.effects (r : RoomDecl) : List EffectDecl := r.actions.map ActionDecl.effect ++ r.onEnter

def ItemDecl.effects (i : ItemDecl) : List EffectDecl := i.actions.map ActionDecl.effect

def WorldFile.effects (file : WorldFile) : List EffectDecl :=
  file.rooms.flatMap RoomDecl.effects ++ file.items.flatMap ItemDecl.effects

theorem RoomDecl.effects_room (r : RoomDecl) : r.room.effects = r.effects.map EffectDecl.steps := by
  simp [Room.effects, RoomDecl.effects, RoomDecl.room, ActionDecl.action, Function.comp_def]

theorem ItemDecl.effects_item (i : ItemDecl) : i.item.effects = i.effects.map EffectDecl.steps := by
  simp [Item.effects, ItemDecl.effects, ItemDecl.item, ActionDecl.action, Function.comp_def]

theorem RoomDecl.Sound.of_mem_effects {file : WorldFile} {r : RoomDecl} {e : EffectDecl} (sound : r.Sound file)
    (member : e ∈ r.effects) : e.Sound file (.room r.id) := by
  rcases List.mem_append.mp member with acts | hooks
  · obtain ⟨a, offered, rfl⟩ := List.mem_map.mp acts
    exact (sound.actions a offered).effect
  · exact sound.onEnter e hooks

theorem ItemDecl.Sound.of_mem_effects {file : WorldFile} {i : ItemDecl} {e : EffectDecl} (sound : i.Sound file)
    (member : e ∈ i.effects) : e.Sound file (.item (fold i.name)) := by
  obtain ⟨a, offered, rfl⟩ := List.mem_map.mp member
  exact (sound.actions a offered).effect

namespace WorldFile
variable {file : WorldFile} {id : String} {room : Room}

theorem room?_world (file : WorldFile) (id : String) :
    file.world.room? id = (file.rooms.findRev? (·.id == id)).map RoomDecl.room := by
  rw [World.room?, world, Catalog.get?_ofList, List.findRev?_eq_find?_reverse, ← List.map_reverse, List.find?_map,
    List.findRev?_eq_find?_reverse]
  rfl

/-- Each room of the world is a declared one, and loading looks for its exits where they are declared. -/
theorem exists_of_room?_world (present : file.world.room? id = some room) :
    ∃ r ∈ file.rooms, r.id = id ∧ r.room = room ∧ file.exitsOf id = r.exits := by
  rw [room?_world, Option.map_eq_some_iff] at present
  obtain ⟨r, last, rfl⟩ := present
  have exits : file.exitsOf id = r.exits := by rw [exitsOf, last, Option.map_some, Option.getD_some]
  rw [List.findRev?_eq_find?_reverse] at last
  exact ⟨r, List.mem_reverse.mp (List.mem_of_find?_eq_some last), beq_iff_eq.mp (List.find?_some last :), rfl, exits⟩

theorem exists_of_mem_rooms_world (present : room ∈ file.world.rooms.values) : ∃ r ∈ file.rooms, r.room = room := by
  rcases Catalog.mem_insertAll present with old | declared
  · cases old
  · exact List.mem_map.mp declared

theorem hasRoom_world (file : WorldFile) (id : String) : file.world.hasRoom id = file.hasRoom id := by
  rw [World.hasRoom_eq_isSome_room?, room?_world, Option.isSome_map, List.findRev?_eq_find?_reverse, hasRoom,
    ← List.any_reverse]
  exact Bool.eq_iff_iff.mpr (by simp)

theorem exists_item?_of_fold_eq {i : ItemDecl} {name : String} (declared : i ∈ file.items) (same : fold i.name = name) :
    ∃ item, file.world.item? name = some item := by
  rw [← Option.isSome_iff_exists, World.item?, List.find?_isSome]
  exact ⟨i.item, List.mem_map_of_mem declared, beq_iff_eq.mpr same⟩

/-- A name that loading accepts is folded to the name of an item. -/
theorem exists_item?_of_hasItem {name : String} (accepted : file.hasItem name = true) :
    ∃ item, file.world.item? (fold name) = some item := by
  obtain ⟨i, declared, alike⟩ := List.any_eq_true.mp accepted
  exact exists_item?_of_fold_eq declared (fold_eq_of_equalUpToAsciiCase alike).symm

/-- A direction that loading accepts for a room is the stored direction of one of its exits. -/
theorem exists_exit?_of_hasExit {direction : String} (present : file.world.room? id = some room)
    (accepted : file.hasExit id (fold direction) = true) : ∃ e, room.exit? (fold direction) = some e := by
  obtain ⟨r, -, -, rfl, exits⟩ := exists_of_room?_world present
  rw [hasExit, exits] at accepted
  obtain ⟨x, declared, alike⟩ := List.any_eq_true.mp accepted
  have stored : x.exit.direction = fold direction := (fold_eq_of_equalUpToAsciiCase_fold alike).symm
  rw [← Option.isSome_iff_exists, Room.exit?, List.find?_isSome]
  exact ⟨x.exit, List.mem_map_of_mem declared, by rw [stored, beq_self_eq_true]⟩

end WorldFile

/-! ### The steps of a declared effect -/

section Steps
variable {e : EffectDecl}

theorem EffectDecl.go_mem_steps {id : String} : Step.go id ∈ e.steps ↔ e.goTo = some id := by
  simp [steps]

theorem EffectDecl.give_mem_steps {name : String} : Step.give name ∈ e.steps ↔ ∃ n ∈ e.give, fold n = name := by
  simp [steps]

theorem EffectDecl.consume_mem_steps {name : String} :
    Step.consume name ∈ e.steps ↔ ∃ n ∈ e.consume, fold n = name := by
  simp [steps]

theorem EffectDecl.block_mem_steps {direction : String} :
    Step.block direction ∈ e.steps ↔ ∃ d ∈ e.block, fold d = direction := by
  simp [steps]

theorem EffectDecl.unblock_mem_steps {direction : String} :
    Step.unblock direction ∈ e.steps ↔ ∃ d ∈ e.unblock, fold d = direction := by
  simp [steps]

theorem EffectDecl.enter_not_mem_steps {id : String} : Step.enter id ∉ e.steps := by
  simp [steps]

end Steps

/-! ### What the steps refer to is there -/

/-- Where the effect sends the player is a room of the world, and what it gives and consumes are items. -/
structure Effect.Grounded (w : World) (effect : Effect) : Prop where
  rooms : ∀ id, .go id ∈ effect → ∃ room, w.room? id = some room
  items : ∀ name, .give name ∈ effect ∨ .consume name ∈ effect → ∃ item, w.item? name = some item

/-- What the effect blocks and opens are exits of the room. -/
def Effect.Fits (room : Room) (effect : Effect) : Prop :=
  ∀ direction, .block direction ∈ effect ∨ .unblock direction ∈ effect → ∃ e, room.exit? direction = some e

/-- What the call looks for is there, so it does not end without doing anything. -/
def Call.Finds (w : World) : Call → Prop
  | .goTo room => w.hasRoom room = true
  | .give item => (w.item? item).isSome = true
  | .setExitBlocked room direction _ => ((w.room? room).bind (·.exit? direction)).isSome = true
  | _ => True

/-- The calls of a grounded effect find what they look for, except perhaps for exits. -/
theorem Firing.finds_of_makes {w : World} {f : Firing} {c : Call} (grounded : f.effect.Grounded w) (makes : f.Makes c) :
    c.Finds w ∨ ∃ direction blocked, c = .setExitBlocked f.room.id direction blocked := by
  obtain ⟨step, belongs, made⟩ := makes
  cases step with
  | block | unblock =>
    cases made
    exact .inr ⟨_, _, rfl⟩
  | give name =>
    cases made
    exact .inl (Option.isSome_iff_exists.mpr (grounded.items name (.inl belongs)))
  | go id =>
    cases made
    exact .inl (Option.isSome_iff_exists.mpr (grounded.rooms id belongs))
  | consume | enter =>
    cases made
    exact .inl trivial
  | say | title | exits | render | whereabouts => cases made

theorem Firing.finds_exit_of_makes {w : World} {f : Firing} (present : w.room? f.room.id = some f.room)
    (fits : f.effect.Fits f.room) {room direction : String} {blocked : Bool}
    (makes : f.Makes (.setExitBlocked room direction blocked)) : (Call.setExitBlocked room direction blocked).Finds w := by
  obtain ⟨step, belongs, made⟩ := makes
  have toggled : room = f.room.id ∧ (.block direction ∈ f.effect ∨ .unblock direction ∈ f.effect) := by
    cases step with
    | block =>
      cases made
      exact ⟨rfl, .inl belongs⟩
    | unblock =>
      cases made
      exact ⟨rfl, .inr belongs⟩
    | _ => cases made
  obtain ⟨rfl, toggled⟩ := toggled
  rw [Call.Finds, present, Option.bind_some, Option.isSome_iff_exists]
  exact fits direction toggled

namespace EffectDecl.Sound
variable {file : WorldFile} {scope : Scope} {e : EffectDecl}

theorem grounded (sound : e.Sound file scope) : Effect.Grounded file.world e.steps where
  rooms id member := by
    have declared := sound.goTo id (go_mem_steps.mp member)
    rw [← WorldFile.hasRoom_world] at declared
    exact World.exists_room?_of_hasRoom declared
  items name member := by
    rw [give_mem_steps, consume_mem_steps, ← exists_or] at member
    obtain ⟨n, listed⟩ := member
    rw [← or_and_right, ← List.mem_append] at listed
    obtain ⟨listed, rfl⟩ := listed
    exact WorldFile.exists_item?_of_hasItem (sound.items n listed)

theorem fits {id : String} {room : Room} (sound : e.Sound file (.room id))
    (present : file.world.room? id = some room) : Effect.Fits room e.steps := by
  intro direction member
  rw [block_mem_steps, unblock_mem_steps, ← exists_or] at member
  obtain ⟨d, listed⟩ := member
  rw [← or_and_right, or_comm, ← List.mem_append] at listed
  obtain ⟨listed, rfl⟩ := listed
  exact WorldFile.exists_exit?_of_hasExit present (sound.exits id rfl d listed)

end EffectDecl.Sound

namespace WorldFile.Sound
variable {file : WorldFile} {effect : Effect}

theorem of_mem_roomEffects {room : Room} (sound : file.Sound) (present : file.world.room? room.id = some room)
    (member : effect ∈ room.effects) : effect.Grounded file.world ∧ effect.Fits room := by
  obtain ⟨r, declared, named, rfl, -⟩ := exists_of_room?_world present
  rw [RoomDecl.effects_room] at member
  obtain ⟨e, listed, rfl⟩ := List.mem_map.mp member
  have accepted := (sound.rooms r declared).of_mem_effects listed
  exact ⟨accepted.grounded, accepted.fits present⟩

theorem of_mem_itemEffects {item : Item} (sound : file.Sound) (stored : item ∈ file.world.items)
    (member : effect ∈ item.effects) : effect.Grounded file.world := by
  obtain ⟨i, declared, rfl⟩ := List.mem_map.mp stored
  rw [ItemDecl.effects_item] at member
  obtain ⟨e, listed, rfl⟩ := List.mem_map.mp member
  exact ((sound.items i declared).of_mem_effects listed).grounded

end WorldFile.Sound

/-! ### Every run of a session -/

namespace Session

/-- Whatever is asked of a session of a loaded world, a command opens, blocks, gives, consumes and teleports only by
    effects that fire. If the file declares such an effect, the room it leads to and the items it names are there;
    if a room of the file declares it, it fires in this room and names exits of it only. So none of its calls looks
    for something that is not there, but for an item's effect that opens or blocks exits wherever the player is. -/
theorem loaded_effects_refer {file : WorldFile} {w : World} {language : Language} {session : Session}
    (loaded : World.ofFile file = .ok w) (started : start w language = .ok session) (ops : List Operation)
    (raw : String) :
    let now := session.run ops
    (∀ c ∈ now.game.handleCalls raw now.state, Call.Origin now.game raw now.state c) ∧
    ∀ f ∈ now.game.firings raw now.state, ∀ scope, f.scope = some scope →
      f.effect.Grounded w ∧
      (∀ id, scope = .room id → w.room? id = some f.room ∧ f.effect ∈ f.room.effects ∧ f.effect.Fits f.room) ∧
      ∀ c, f.Makes c → c.Finds w ∨
        ∃ name direction blocked, scope = .item name ∧ c = .setExitBlocked f.room.id direction blocked := by
  intro now
  obtain ⟨sound, rfl⟩ := World.ofFile_eq_ok_iff.mp loaded
  have world : now.game.world = file.world := world_run_of_start started ops
  refine ⟨fun c member => Game.origin_of_mem_handleCalls member, fun f member scope declaredIn => ?_⟩
  cases Game.declared_of_mem_firings member with
  | hook => cases declaredIn
  | room present belongs =>
    obtain rfl := Option.some.inj declaredIn
    rw [world] at present
    obtain ⟨grounded, fits⟩ := sound.of_mem_roomEffects present belongs
    refine ⟨grounded, fun id same => ?_, fun c makes => .inl ?_⟩
    · cases same
      exact ⟨present, belongs, fits⟩
    · rcases Firing.finds_of_makes grounded makes with finds | ⟨direction, blocked, rfl⟩
      · exact finds
      · exact Firing.finds_exit_of_makes present fits makes
  | item here carried belongs =>
    obtain rfl := Option.some.inj declaredIn
    -- A carried item is a declared one, so its effects are loaded ones too.
    have grounded := sound.of_mem_itemEffects ((placed_run_of_start started ops).carried _ carried) belongs
    refine ⟨grounded, (fun _ other => nomatch other), fun c makes => ?_⟩
    exact (Firing.finds_of_makes grounded makes).imp_right fun ⟨d, b, made⟩ => ⟨_, d, b, rfl, made⟩

/-- A door whose direction is declared in lowercase is opened by its name in capitals, and so is the lamp given. -/
theorem loaded_effects_refer_door :
    let opens : EffectDecl := { unblock := [" ÉTÉ "], give := ["LAMP"], goTo := some "hall" }
    let hall : RoomDecl := { id := "hall", name := "Hall", exits := [⟨"été", "hall", true⟩],
                             actions := [{ phrases := ["knock"], effect := opens }] }
    let file : WorldFile := { header := { id := "house", name := "House", startRoom := "hall" }, rooms := [hall],
                              items := [{ name := " Lamp " }] }
    let session : Session := ⟨file.world.gameIn .english, file.world.initialState⟩
    let fired : Firing := ⟨some (.room "hall"), hall.room, opens.steps⟩
    World.ofFile file = .ok file.world ∧ Session.start file.world .english = .ok session ∧
      session.game.firings "knock" session.state = [fired] ∧ fired.effect.Grounded file.world ∧
      fired.effect.Fits hall.room ∧ (Call.setExitBlocked "hall" "été" false).Finds file.world := by
  intro opens hall file session fired
  have loaded : World.ofFile file = .ok file.world := World.ofFile_eq_ok_of_isOk (by decide +kernel)
  have sound : file.world.defects = [] := by decide +kernel
  have started : Session.start file.world .english = .ok session := by rw [start, sound]
  have firings : session.game.firings "knock" session.state = [fired] := by decide +kernel
  obtain ⟨-, refers⟩ := loaded_effects_refer loaded started [] "knock"
  obtain ⟨grounded, placed, finds⟩ := refers fired (firings ▸ List.mem_cons_self) _ rfl
  have makes : fired.Makes (.setExitBlocked "hall" "été" false) :=
    ⟨.unblock "été", by decide +kernel, rfl⟩
  refine ⟨loaded, started, firings, grounded, (placed "hall" rfl).2.2, (finds _ makes).resolve_right ?_⟩
  rintro ⟨name, direction, blocked, other, -⟩
  cases other

end Session
end TextAdventure
