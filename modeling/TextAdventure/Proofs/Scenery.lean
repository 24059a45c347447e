import TextAdventure.Proofs.Enclosure

/-! Scenery. What a player brings about in a session is done by replies, by walks and by the effects that the world
    declares (`Session.Played.run_induction`). Of these only the effects give items, and taking refuses an item that cannot
    be got. So an item that cannot be got, and that no effect of a loaded world gives, stays in the room where it starts,
    and is never carried (`Session.scenery_stays`). -/

namespace TextAdventure
open Text

/-! ### What is done in play -/

/-- A room of the world or one of its items declares the effect. -/
def World.Declares (w : World) (effect : Effect) : Prop :=
  (∃ room, w.room? room.id = some room ∧ effect ∈ room.effects) ∨ ∃ item ∈ w.items, effect ∈ item.effects

/-- The call is a reply, an arrival, or one that an effect of the world makes in some room. -/
def Call.OfPlay (w : World) (c : Call) : Prop :=
  c.isReply = true ∨ (∃ id, c = .arrive id) ∨ ∃ effect, w.Declares effect ∧ ∃ step ∈ effect, ∃ room, step.call? room = some c

section Calls
variable {g : Game} {s : State} {c : Call}

theorem Game.ofPlay_of_mem_handleCalls (placed : Placed g.world s) (hooks : ∀ hook ∈ g.moveHooks, hook.OnlyShows)
    {raw : String} (member : c ∈ g.handleCalls raw s) : c.OfPlay g.world := by
  cases origin_of_mem_handleCalls member with
  | reply reply => exact .inl reply
  | walk => exact .inr (.inl ⟨_, rfl⟩)
  | effect fires makes =>
    obtain ⟨step, belongs, made⟩ := makes
    cases declared_of_mem_firings fires with
    | @hook room _ present added =>
      rw [hooks _ added step belongs] at made
      cases made
    | room present declared => exact .inr (.inr ⟨_, .inl ⟨_, present, declared⟩, step, belongs, _, made⟩)
    | item here carried declared =>
      exact .inr (.inr ⟨_, .inr ⟨_, placed.carried _ carried, declared⟩, step, belongs, _, made⟩)

end Calls

namespace Session.Played
variable {w : World} {session : Session} {op : Operation} {ops : List Operation}

theorem ofPlay_of_mem_calls (played : session.Played w) (ofPlayer : op.OfPlayer) : ∀ c ∈ session.calls op, c.OfPlay w := by
  intro c member
  obtain ⟨rfl, hooks, placed⟩ := played
  rcases handled_or_isReply_of_mem_calls ofPlayer member with ⟨raw, handled⟩ | reply
  · exact Game.ofPlay_of_mem_handleCalls placed hooks handled
  · exact .inl reply

/-- What holds at first, and what replies, arrivals and the effects of the world keep, holds whatever a player asks for. -/
theorem run_induction {P : State → Prop} (played : session.Played w) (ofPlayer : ∀ op ∈ ops, op.OfPlayer)
    (initial : P session.state) (kept : ∀ s (c : Call), c.OfPlay w → P s → P (c.apply w s)) : P (session.run ops).state := by
  induction ops generalizing session with
  | nil => exact initial
  | cons op ops ih =>
    obtain ⟨first, rest⟩ := List.forall_mem_cons.mp ofPlayer
    refine ih (played.apply first) rest ?_
    rw [state_apply, played.world]
    exact State.applyAll_induction (played.ofPlay_of_mem_calls first) initial kept

end Session.Played

/-- The effects of a loaded world are those that its file declares. -/
theorem WorldFile.exists_of_declares {file : WorldFile} {effect : Effect} (declares : file.world.Declares effect) :
    ∃ e ∈ file.effects, e.steps = effect := by
  rcases declares with ⟨room, present, member⟩ | ⟨item, stored, member⟩
  · obtain ⟨r, declared, -, rfl, -⟩ := exists_of_room?_world present
    rw [RoomDecl.effects_room] at member
    obtain ⟨e, listed, made⟩ := List.mem_map.mp member
    exact ⟨e, List.mem_append_left _ (List.mem_flatMap.mpr ⟨r, declared, listed⟩), made⟩
  · obtain ⟨i, declared, rfl⟩ := List.mem_map.mp stored
    rw [ItemDecl.effects_item] at member
    obtain ⟨e, listed, made⟩ := List.mem_map.mp member
    exact ⟨e, List.mem_append_right _ (List.mem_flatMap.mpr ⟨i, declared, listed⟩), made⟩

/-! ### Items that stay -/

section Stay
variable {w : World} {s : State} {item : Item} {r : String}

/-- Taking takes nothing that cannot be got. -/
theorem State.mem_lying_take (fixed : item.gettable = false) (lies : ⟨r, item⟩ ∈ s.lying) (room : Room) (name : String) :
    ⟨r, item⟩ ∈ (s.take room name).lying := by
  rcases s.take_cases room name with ⟨out, shown⟩ | ⟨other, -, found, gettable, taken⟩
  · rw [shown]
    exact lies
  · obtain ⟨before, after, split, left⟩ := lying_pickUp (s := s.say s!"You take the {other.name}.") found
    have apart : (⟨r, item⟩ : LyingItem) ≠ ⟨room.id, other⟩ := by
      rintro ⟨⟩
      rw [fixed] at gettable
      cases gettable
    have lies : ⟨r, item⟩ ∈ before ++ ⟨room.id, other⟩ :: after := split ▸ lies
    rw [taken, left]
    simpa [apart] using lies

/-- Only a call of `give` with its name moves an item that cannot be got. -/
theorem Call.mem_lying_apply {c : Call} (fixed : item.gettable = false) (ungiven : c ≠ .give item.name)
    (lies : ⟨r, item⟩ ∈ s.lying) : ⟨r, item⟩ ∈ (c.apply w s).lying := by
  have moved := c.itemsMoved_apply w s
  generalize applied : c.apply w s = t at moved ⊢
  cases moved with
  | stay lying => exact lying ▸ lies
  | @give name _ _ lying =>
    have other : item.name ≠ name := by
      rintro rfl
      exact ungiven rfl
    rw [lying]
    exact List.mem_filter.mpr ⟨lies, bne_iff_ne.mpr other⟩
  | consume lying => exact lying ▸ lies
  | take => exact applied ▸ State.mem_lying_take fixed lies _ _
  | drop _ lying =>
    rw [lying]
    exact List.mem_append_left _ lies

/-- A call of `give` that is made in play has its name from an effect of the world. -/
theorem Call.OfPlay.exists_of_give {name : String} (ofPlay : (Call.give name).OfPlay w) :
    ∃ effect, w.Declares effect ∧ .give name ∈ effect := by
  rcases ofPlay with reply | ⟨id, arrival⟩ | ⟨effect, declares, step, belongs, room, made⟩
  · cases reply
  · cases arrival
  · refine ⟨effect, declares, ?_⟩
    cases step with
    | give given =>
      cases made
      exact belongs
    | _ => cases made

end Stay

/-- What lies in a room lies there once, and nothing else of its name lies anywhere or is carried. -/
theorem Placed.only {w : World} {s : State} {item : Item} {r : String} (placed : Placed w s) (lies : ⟨r, item⟩ ∈ s.lying) :
    (s.itemsIn r).count item = 1 ∧
      (∀ room, ∀ x ∈ s.itemsIn room, x.name = item.name → room = r ∧ x = item) ∧
      s.inventory.get? item.name = none := by
  refine ⟨?_, fun room x there same => ?_, placed.apart _ lies⟩
  · have once : ((s.itemsIn r).map Item.name).Nodup := by
      rw [State.itemsIn, List.map_map]
      exact placed.once.sublist (List.filter_sublist.map _)
    exact List.count_eq_one_of_mem once.of_map (State.mem_itemsIn_iff.mpr lies)
  · have one := List.inj_on_of_nodup_map placed.once (State.mem_itemsIn_iff.mp there) lies same
    injection one with sameRoom sameItem
    exact ⟨sameRoom, sameItem⟩

/-! ### Every run of a session -/

namespace Session

/-- Whatever a player asks for in a session of a loaded world, an item that cannot be got and that no effect gives lies in
    the room where it starts, once. Nothing of its name lies anywhere else, and nothing of its name is carried. -/
theorem scenery_stays {file : WorldFile} {w : World} {language : Language} {session : Session}
    (loaded : World.ofFile file = .ok w) (started : start w language = .ok session) {item : Item} {r : String}
    (declared : item ∈ w.items) (fixed : item.gettable = false) (starts : item.start = some (.room r))
    (ungiven : ∀ e ∈ file.effects, ∀ name ∈ e.give, fold name ≠ item.name) {ops : List Operation}
    (ofPlayer : ∀ op ∈ ops, op.OfPlayer) :
    let s := (session.run ops).state
    (s.itemsIn r).count item = 1 ∧
      (∀ room, ∀ x ∈ s.itemsIn room, x.name = item.name → room = r ∧ x = item) ∧
      s.inventory.get? item.name = none := by
  intro s
  obtain ⟨-, rfl⟩ := World.ofFile_eq_ok_iff.mp loaded
  have spared (c : Call) (ofPlay : c.OfPlay file.world) : c ≠ .give item.name := by
    rintro rfl
    obtain ⟨effect, declares, given⟩ := ofPlay.exists_of_give
    obtain ⟨e, listed, rfl⟩ := WorldFile.exists_of_declares declares
    obtain ⟨name, member, same⟩ := EffectDecl.give_mem_steps.mp given
    exact ungiven e listed name member same
  have lies : ⟨r, item⟩ ∈ s.lying := by
    refine (Played.initial started).run_induction (P := fun s => ⟨r, item⟩ ∈ s.lying) ofPlayer ?_
      fun s c ofPlay lies => c.mem_lying_apply fixed (spared c ofPlay) lies
    rw [(start_eq_ok started).2]
    exact List.mem_filterMap.mpr ⟨item, declared, by rw [starts]⟩
  exact (placed_run_of_start started ops).only lies

/-- The statue cannot be taken, and consuming it takes nothing from the yard. The wreath that lies at it is carried off and
    given back. -/
theorem scenery_stays_statue :
    let yard : RoomDecl := { id := "yard", name := "Yard", exits := [⟨"n", "road", false⟩],
                             actions := [{ phrases := ["bow"], effect := { give := ["wreath"], consume := ["statue"] } }] }
    let road : RoomDecl := { id := "road", name := "Road", exits := [⟨"s", "yard", false⟩] }
    let statue : ItemDecl := { name := "Statue", gettable := some false, start := some "room:yard",
                               actions := [{ phrases := ["push statue"], effect := { goTo := some "road" } }] }
    let wreath : ItemDecl := { name := "wreath", gettable := some true, start := some "room:yard" }
    let file : WorldFile := { header := { id := "park", name := "Park", startRoom := "yard" }, rooms := [yard, road],
                              items := [statue, wreath] }
    let session : Session := ⟨file.world.gameIn .english, file.world.initialState⟩
    let ops : List Operation := [.onMove [.render], .opening, .step "take statue", .step "take wreath", .step "drop statue",
      .step "n", .step "drop wreath", .command "s", .step "bow"]
    let s := (session.run ops).state
    World.ofFile file = .ok file.world ∧ Session.start file.world .english = .ok session ∧
      (s.itemsIn "yard").count statue.item = 1 ∧ "statue" ∉ (s.itemsIn "road").map Item.name ∧
      s.inventory.get? "statue" = none := by
  intro yard road statue wreath file session ops s
  have loaded : World.ofFile file = .ok file.world := World.ofFile_eq_ok_of_isOk (by decide +kernel)
  have sound : file.world.defects = [] := by decide +kernel
  have started : Session.start file.world .english = .ok session := by rw [start, sound]
  have name : statue.item.name = "statue" := by decide +kernel
  have declared : statue.item ∈ file.world.items := List.mem_map_of_mem (by simp [file])
  have starts : statue.item.start = some (.room "yard") := by decide +kernel
  have ungiven : ∀ e ∈ file.effects, ∀ name ∈ e.give, fold name ≠ statue.item.name := by decide +kernel
  have ofPlayer : ∀ op ∈ ops, op.OfPlayer := by simp [ops, Operation.OfPlayer, Effect.OnlyShows, Step.call?]
  obtain ⟨once, only, notCarried⟩ := scenery_stays loaded started declared (by decide +kernel) starts ungiven ofPlayer
  refine ⟨loaded, started, once, fun there => ?_, name ▸ notCarried⟩
  obtain ⟨x, lies, named⟩ := List.mem_map.mp there
  obtain ⟨elsewhere, -⟩ := only "road" x lies (named.trans name.symm)
  exact absurd elsewhere (by decide)

end Session
end TextAdventure
