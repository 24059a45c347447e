import TextAdventure.World.Loading

/-! What loading yields. The checks of loading are one predicate on the declarations of a file, and the world
    is made of the declarations alone: a file is loaded exactly if it is sound, and then as the world that it
    declares (`World.ofFile_eq_ok_iff`). -/

namespace TextAdventure
open Text

/-! ### What is declared -/

/-- The action that is declared, sound or not. -/
def ActionDecl.action (a : ActionDecl) : Action where
  id := a.id
  phrases := a.phrases
  requires := a.requires.map fold
  missingText := a.missingText.map tidy
  effect := a.effect.steps

/-- The room that is declared, sound or not. -/
def RoomDecl.room (r : RoomDecl) : Room where
  id := r.id
  name := r.name
  desc := tidy r.desc
  exits := r.exits.map ExitDecl.exit
  actions := r.actions.map ActionDecl.action
  onEnter := r.onEnter.map EffectDecl.steps

/-- The item that is declared, sound or not; a start location that names no place is none. -/
def ItemDecl.item (i : ItemDecl) : Item where
  name := fold i.name
  desc := tidy i.desc
  roomText := tidy i.roomText
  gettable := i.gettable.getD true
  actions := i.actions.map ActionDecl.action
  start := i.start.bind fun text => (Place.ofText text).toOption

/-- The world that is declared, sound or not; of rooms with one id it has the last. -/
def WorldFile.world (file : WorldFile) : World where
  id := file.header.id
  name := file.header.name
  prologue := tidy file.header.prologue
  startRoom := file.header.startRoom
  rooms := .ofList Room.id (file.rooms.map RoomDecl.room)
  items := file.items.map ItemDecl.item
  aliases := file.aliases
  junk := file.junk
  directions := file.directions

/-! ### What is checked -/

/-- All that an effect declared in `scope` refers to is declared. -/
structure EffectDecl.Sound (file : WorldFile) (scope : Scope) (e : EffectDecl) : Prop where
  goTo : ∀ id, e.goTo = some id → file.hasRoom id = true
  items : ∀ name ∈ e.give ++ e.consume, file.hasItem name = true
  exits : ∀ id, scope = .room id → ∀ direction ∈ e.unblock ++ e.block, file.hasExit id (fold direction) = true

/-- An action can be triggered, and its effect is sound. -/
structure ActionDecl.Sound (file : WorldFile) (scope : Scope) (a : ActionDecl) : Prop where
  phrases : ∃ phrase ∈ a.phrases, allBlank phrase = false
  effect : a.effect.Sound file scope

/-- The actions and hooks of a room are sound. -/
structure RoomDecl.Sound (file : WorldFile) (r : RoomDecl) : Prop where
  actions : ∀ a ∈ r.actions, a.Sound file (.room r.id)
  onEnter : ∀ e ∈ r.onEnter, e.Sound file (.room r.id)

/-- An item has a name and starts in a place, if anywhere, and its actions are sound. -/
structure ItemDecl.Sound (file : WorldFile) (i : ItemDecl) : Prop where
  name : fold i.name ≠ ""
  start : ∀ text, i.start = some text → ∃ place, Place.ofText text = .ok place
  actions : ∀ a ∈ i.actions, a.Sound file (.item (fold i.name))

/-- The declarations of a file pass all checks of loading. -/
structure WorldFile.Sound (file : WorldFile) : Prop where
  worldId : allBlank file.header.id = false
  startRoom : allBlank file.header.startRoom = false
  distinct : (file.rooms.map RoomDecl.id).Nodup
  rooms : ∀ r ∈ file.rooms, r.Sound file
  items : ∀ i ∈ file.items, i.Sound file

/-! ### Computations that may fail -/

section Except
variable {ε α β : Type}

theorem bind_eq_ok_iff {x : Except ε α} {f : α → Except ε β} {b : β} :
    (x >>= f) = .ok b ↔ ∃ a, x = .ok a ∧ f a = .ok b := by
  cases x <;> simp [bind, Except.bind]

/-- What follows a check is reached exactly if what the check looks for is not there. -/
theorem check_eq_ok_iff {c : Prop} [Decidable c] {e : ε} {next : Unit → Except ε β} {b : β} :
    (if c then throw e >>= next else next ()) = .ok b ↔ ¬c ∧ next () = .ok b := by
  by_cases h : c <;> simp [h, bind, Except.bind, throw, throwThe, MonadExceptOf.throw]

/-- Where each member of a list succeeds under a condition and with a value of its own, the list does too. -/
theorem mapM_eq_ok_iff {f : α → Except ε β} {g : α → β} {P : α → Prop} (h : ∀ x y, f x = .ok y ↔ P x ∧ y = g x)
    (xs : List α) (ys : List β) : xs.mapM f = .ok ys ↔ (∀ x ∈ xs, P x) ∧ ys = xs.map g := by
  induction xs generalizing ys with
  | nil => simp [pure, Except.pure, eq_comm]
  | cons x xs ih =>
    rw [List.mapM_cons, bind_eq_ok_iff]
    simp only [h, bind_eq_ok_iff, ih, pure, Except.pure, Except.ok.injEq, List.mem_cons, forall_eq_or_imp, List.map_cons]
    constructor
    · rintro ⟨_, ⟨head, rfl⟩, _, ⟨tail, rfl⟩, rfl⟩
      exact ⟨⟨head, tail⟩, rfl⟩
    · rintro ⟨⟨head, tail⟩, rfl⟩
      exact ⟨_, ⟨head, rfl⟩, _, ⟨tail, rfl⟩, rfl⟩

end Except

/-! ### Sound declarations are loaded as they are -/

section Load
variable {file : WorldFile} {scope : Scope}

theorem EffectDecl.fault?_eq_none_iff {e : EffectDecl} : e.fault? file scope = none ↔ e.Sound file scope := by
  have rooms : (e.goTo.filter (!file.hasRoom ·)).map (Fault.missingRoom scope) = none ↔
      ∀ id, e.goTo = some id → file.hasRoom id = true := by
    cases e.goTo <;> simp [Option.filter]
  have items : ((e.give ++ e.consume).find? (!file.hasItem ·)).map (Fault.missingItem scope) = none ↔
      ∀ name ∈ e.give ++ e.consume, file.hasItem name = true := by
    rw [Option.map_eq_none_iff, List.find?_eq_none]
    simp
  unfold fault?
  rw [Option.or_eq_none_iff, Option.or_eq_none_iff, rooms, items]
  cases scope with
  | room id =>
    rw [Option.map_eq_none_iff, List.find?_eq_none]
    constructor
    · rintro ⟨⟨rooms, items⟩, exits⟩
      refine ⟨rooms, items, fun _ same direction member => ?_⟩
      cases same
      simpa using exits (fold direction) (List.mem_map_of_mem member)
    · intro sound
      refine ⟨⟨sound.goTo, sound.items⟩, fun folded member => ?_⟩
      obtain ⟨direction, toggled, rfl⟩ := List.mem_map.mp member
      simpa using sound.exits id rfl direction toggled
  | item name =>
    constructor
    · rintro ⟨⟨rooms, items⟩, -⟩
      exact ⟨rooms, items, fun _ other => nomatch other⟩
    · exact fun sound => ⟨⟨sound.goTo, sound.items⟩, rfl⟩

theorem EffectDecl.load_eq_ok_iff (e : EffectDecl) (effect : Effect) :
    e.load file scope = .ok effect ↔ e.Sound file scope ∧ effect = e.steps := by
  rw [← fault?_eq_none_iff, load]
  cases e.fault? file scope <;> simp [eq_comm]

theorem ActionDecl.load_eq_ok_iff (a : ActionDecl) (action : Action) :
    a.load file scope = .ok action ↔ a.Sound file scope ∧ action = a.action := by
  have triggered : ¬a.phrases.all allBlank = true ↔ ∃ phrase ∈ a.phrases, allBlank phrase = false := by simp
  rw [load, check_eq_ok_iff, triggered, bind_eq_ok_iff]
  simp only [EffectDecl.load_eq_ok_iff]
  constructor
  · rintro ⟨phrases, effect, ⟨sound, rfl⟩, made⟩
    cases made
    exact ⟨⟨phrases, sound⟩, rfl⟩
  · rintro ⟨⟨phrases, sound⟩, rfl⟩
    exact ⟨phrases, _, ⟨sound, rfl⟩, rfl⟩

theorem RoomDecl.load_eq_ok_iff (r : RoomDecl) (room : Room) :
    r.load file = .ok room ↔ r.Sound file ∧ room = r.room := by
  simp only [load, bind_eq_ok_iff, mapM_eq_ok_iff ActionDecl.load_eq_ok_iff, mapM_eq_ok_iff EffectDecl.load_eq_ok_iff]
  constructor
  · rintro ⟨_, ⟨actions, rfl⟩, _, ⟨onEnter, rfl⟩, made⟩
    cases made
    exact ⟨⟨actions, onEnter⟩, rfl⟩
  · rintro ⟨⟨actions, onEnter⟩, rfl⟩
    exact ⟨_, ⟨actions, rfl⟩, _, ⟨onEnter, rfl⟩, rfl⟩

theorem ItemDecl.mapM_start_eq_ok_iff {i : ItemDecl} {start : Option Place} :
    i.start.mapM Place.ofText = .ok start ↔
      (∀ text, i.start = some text → ∃ place, Place.ofText text = .ok place) ∧
        start = i.start.bind fun text => (Place.ofText text).toOption := by
  cases i.start with
  | none => simp [pure, Except.pure, eq_comm]
  | some text => cases found : Place.ofText text <;> simp [found, Except.toOption, Functor.map, Except.map, eq_comm]

theorem ItemDecl.load_eq_ok_iff (i : ItemDecl) (item : Item) :
    i.load file = .ok item ↔ i.Sound file ∧ item = i.item := by
  rw [load, check_eq_ok_iff, beq_iff_eq]
  simp only [bind_eq_ok_iff, mapM_start_eq_ok_iff, mapM_eq_ok_iff ActionDecl.load_eq_ok_iff]
  constructor
  · rintro ⟨name, _, ⟨start, rfl⟩, _, ⟨actions, rfl⟩, made⟩
    exact ⟨⟨name, start, actions⟩, (Except.ok.inj made).symm⟩
  · rintro ⟨⟨name, start, actions⟩, rfl⟩
    exact ⟨name, _, ⟨start, rfl⟩, _, ⟨actions, rfl⟩, rfl⟩

theorem contains_insert_room (rooms : Catalog Room.id) (r : RoomDecl) (id : String) :
    (rooms.insert r.room).contains id = false ↔ r.id ≠ id ∧ rooms.contains id = false := by
  have named : r.room.id = r.id := rfl
  rw [Catalog.contains, Catalog.get?_insert, named, Catalog.contains]
  by_cases same : r.id = id <;> simp [same]

theorem loadRooms_eq_ok_iff (rooms loaded : Catalog Room.id) (rs : List RoomDecl) :
    loadRooms file rooms rs = .ok loaded ↔
      (∀ r ∈ rs, r.Sound file) ∧ (∀ r ∈ rs, rooms.contains r.id = false) ∧ (rs.map RoomDecl.id).Nodup ∧
        loaded = rooms.insertAll (rs.map RoomDecl.room) := by
  induction rs generalizing rooms with
  | nil =>
    rw [loadRooms, Except.ok.injEq, eq_comm]
    simp [Catalog.insertAll]
  | cons r rs ih =>
    rw [loadRooms, check_eq_ok_iff, bind_eq_ok_iff]
    simp only [RoomDecl.load_eq_ok_iff, ih, List.forall_mem_cons, List.map_cons, List.nodup_cons, Bool.not_eq_true]
    constructor
    · rintro ⟨new, _, ⟨sound, rfl⟩, sounds, news, distinct, rfl⟩
      replace news (x) (member : x ∈ rs) := (contains_insert_room rooms r x.id).mp (news x member)
      refine ⟨⟨sound, sounds⟩, ⟨new, fun x member => (news x member).2⟩, ⟨fun again => ?_, distinct⟩, rfl⟩
      obtain ⟨x, member, same⟩ := List.mem_map.mp again
      exact (news x member).1 same.symm
    · rintro ⟨⟨sound, sounds⟩, ⟨new, news⟩, ⟨once, distinct⟩, rfl⟩
      refine ⟨new, _, ⟨sound, rfl⟩, sounds, fun x member => ?_, distinct, rfl⟩
      exact (contains_insert_room rooms r x.id).mpr ⟨fun same => once (same ▸ List.mem_map_of_mem member), news x member⟩

theorem World.ofFile_eq_ok_iff {w : World} : World.ofFile file = .ok w ↔ file.Sound ∧ w = file.world := by
  rw [ofFile, check_eq_ok_iff, check_eq_ok_iff, bind_eq_ok_iff]
  simp only [bind_eq_ok_iff, loadRooms_eq_ok_iff, mapM_eq_ok_iff ItemDecl.load_eq_ok_iff]
  constructor
  · rintro ⟨worldId, startRoom, _, ⟨rooms, -, distinct, rfl⟩, _, ⟨items, rfl⟩, made⟩
    cases made
    exact ⟨⟨by simpa using worldId, by simpa using startRoom, distinct, rooms, items⟩, rfl⟩
  · rintro ⟨sound, rfl⟩
    exact ⟨by simp [sound.worldId], by simp [sound.startRoom], _, ⟨sound.rooms, fun _ _ => rfl, sound.distinct, rfl⟩,
      _, ⟨sound.items, rfl⟩, rfl⟩

theorem World.ofFile_eq_ok_of_isOk (accepted : (ofFile file).isOk = true) : ofFile file = .ok file.world := by
  cases loaded : ofFile file with
  | error fault => simp [loaded, Except.isOk, Except.toBool] at accepted
  | ok w => rw [(ofFile_eq_ok_iff.mp loaded).2]

end Load
end TextAdventure
