import TextAdventure.Proofs.LoadedEffects
import TextAdventure.Proofs.Flags
import Mathlib.Data.Set.Basic

/-! Locked areas. Some rooms of a world enclose the player if each exit out of them starts blocked, no effect that can
    fire in its room opens it, and no effect leads out. Then the ways out stay blocked and the player stays inside:
    a command walks through open exits only, and all else that moves the player or opens exits are effects. -/

namespace TextAdventure
open Text

/-! ### Enclosures in a world -/

/-- The exit leads out of the rooms `inside`, from one of them. -/
structure World.WayOut (w : World) (inside : Set String) (room : Room) (e : Exit) : Prop where
  present : w.room? room.id = some room
  here : room.id ∈ inside
  member : e ∈ room.exits
  outside : e.target ∉ inside

/-- Where the effect fires in `room`, it neither leads out of the rooms `inside` nor opens a way out. -/
structure Effect.Confined (w : World) (inside : Set String) (room : Room) (effect : Effect) : Prop where
  leads : ∀ id, .go id ∈ effect ∨ .enter id ∈ effect → id ∈ inside
  shut : ∀ e, w.WayOut inside room e → .unblock e.direction ∉ effect

/-- The player starts in one of the rooms `inside`, all ways out are blocked, and no effect opens one or leads out. -/
structure World.Encloses (w : World) (inside : Set String) : Prop where
  start : w.startRoom ∈ inside
  blocked : ∀ room e, w.WayOut inside room e → e.blocked = true
  rooms : ∀ room, w.room? room.id = some room → ∀ effect ∈ room.effects, effect.Confined w inside room
  items : ∀ item ∈ w.items, ∀ effect ∈ item.effects, ∀ room, effect.Confined w inside room

/-- The player is inside, and all ways out are blocked. -/
structure Enclosed (w : World) (inside : Set String) (s : State) : Prop where
  here : s.here ∈ inside
  shut : ∀ room e, w.WayOut inside room e → s.exitBlocked room.id e = true

section Calls
variable {w : World} {inside : Set String} {s : State} {c : Call}

theorem Enclosed.initial (encloses : w.Encloses inside) : Enclosed w inside w.initialState where
  here := encloses.start
  shut room e out := by
    rw [State.exitBlocked, List.contains_iff_mem, World.mem_blocked_initialState]
    exact ⟨room, out.present, e, out.member, rfl, encloses.blocked room e out⟩

/-- The call neither leads out nor opens a way out. -/
def Call.StaysInside (w : World) (inside : Set String) : Call → Prop
  | .arrive id | .goTo id => id ∈ inside
  | .setExitBlocked id direction false => ∀ room e, w.WayOut inside room e → room.id = id → e.direction ≠ direction
  | _ => True

theorem Enclosed.apply (enclosed : Enclosed w inside s) (stays : c.StaysInside w inside) :
    Enclosed w inside (c.apply w s) where
  here := by
    rw [Call.here_apply]
    cases c with
    | arrive id => exact stays
    | goTo id =>
      rw [Call.hereAfter]
      split
      · exact stays
      · exact enclosed.here
    | _ => exact enclosed.here
  shut room e out := by
    rcases (Call.here_and_blocked_apply w s c).2 with ⟨id, direction, blocked, rfl⟩ | same
    · rw [Call.apply, State.exitBlocked_setExitBlocked]
      split
      · next toggled =>
        obtain ⟨-, rfl, rfl⟩ := toggled
        cases blocked with
        | true => rfl
        | false => exact absurd rfl (stays room e out rfl)
      · exact enclosed.shut room e out
    · rw [State.exitBlocked, same]
      exact enclosed.shut room e out

theorem Call.staysInside_of_isReply (reply : c.isReply = true) : c.StaysInside w inside := by
  cases c <;> trivial

theorem Firing.staysInside_of_makes {f : Firing} (present : w.room? f.room.id = some f.room)
    (confined : f.effect.Confined w inside f.room) (makes : f.Makes c) : c.StaysInside w inside := by
  obtain ⟨step, belongs, made⟩ := makes
  cases step with
  | unblock direction =>
    cases made
    intro room e out same opened
    have found : w.room? room.id = some f.room := same ▸ present
    obtain rfl := Option.some.inj (out.present.symm.trans found)
    exact confined.shut e out (opened ▸ belongs)
  | go id =>
    cases made
    exact confined.leads id (.inl belongs)
  | enter id =>
    cases made
    exact confined.leads id (.inr belongs)
  | block | give | consume =>
    cases made
    trivial
  | say | title | exits | render | whereabouts => cases made

end Calls

/-! ### What a player may ask for -/

def Effect.OnlyShows (effect : Effect) : Prop := ∀ step ∈ effect, ∀ room, step.call? room = none

/-- What is asked of a session that is played: commands, its opening and its output, and hooks that show something
    after each move. -/
def Operation.OfPlayer : Operation → Prop
  | .command _ | .step _ | .opening | .takeOutput => True
  | .onMove hook => hook.OnlyShows
  | .give _ | .consume _ | .setExitBlocked .. | .goTo _ => False

/-- The session is of this world, and its hooks only show something. -/
structure Session.Played (w : World) (session : Session) : Prop where
  world : session.game.world = w
  hooks : ∀ hook ∈ session.game.moveHooks, hook.OnlyShows
  placed : Placed w session.state

namespace Session
variable {w : World} {language : Language} {session : Session} {op : Operation}

theorem Played.initial (started : start w language = .ok session) : session.Played w := by
  obtain ⟨sound, rfl⟩ := start_eq_ok started
  exact ⟨rfl, nofun, .initial (World.valid_of_defects_eq_nil sound)⟩

theorem Played.apply (played : session.Played w) (ofPlayer : op.OfPlayer) : (session.apply op).Played w where
  world := by rw [world_apply, played.world]
  hooks := by
    cases op with
    | onMove hook =>
      intro added member
      rcases List.mem_append.mp member with old | new
      · exact played.hooks added old
      · obtain rfl := List.mem_singleton.mp new
        exact ofPlayer
    | _ => exact played.hooks
  placed := by
    have placed := played.placed
    rw [← played.world] at placed ⊢
    exact placed.run [op]

/-- A player's operation makes the calls of a command, and replies. -/
theorem handled_or_isReply_of_mem_calls (ofPlayer : op.OfPlayer) {c : Call} (member : c ∈ session.calls op) :
    (∃ raw, c ∈ session.game.handleCalls raw session.state) ∨ c.isReply = true := by
  cases op with
  | command raw => exact .inl ⟨raw, member⟩
  | step raw =>
    rcases List.mem_append.mp member with handled | taken
    · exact .inl ⟨raw, handled⟩
    · obtain rfl := List.mem_singleton.mp taken
      exact .inr rfl
  | opening => rcases Game.eq_of_mem_openingCalls member with rfl | rfl | ⟨room, -, rfl⟩ | rfl <;> exact .inr rfl
  | takeOutput =>
    obtain rfl := List.mem_singleton.mp member
    exact .inr rfl
  | onMove hook => cases member
  | give | consume | setExitBlocked | goTo => exact ofPlayer.elim

end Session

section Commands
variable {g : Game} {inside : Set String} {s : State} {c : Call}

theorem Game.staysInside_of_mem_handleCalls (encloses : g.world.Encloses inside) (placed : Placed g.world s)
    (hooks : ∀ hook ∈ g.moveHooks, hook.OnlyShows) (enclosed : Enclosed g.world inside s) {raw : String}
    (member : c ∈ g.handleCalls raw s) : c.StaysInside g.world inside := by
  cases origin_of_mem_handleCalls member with
  | reply reply => exact Call.staysInside_of_isReply reply
  | @walk room e here leads isOpen =>
    -- An open exit cannot be a way out.
    by_contra outside
    have inhabited : room.id ∈ inside := World.id_of_room? here ▸ enclosed.here
    have shut := enclosed.shut room e ⟨World.room?_id_of_room? here, inhabited, leads, outside⟩
    rw [shut] at isOpen
    cases isOpen
  | effect fires makes =>
    cases declared_of_mem_firings fires with
    | @hook room _ present added =>
      -- The hooks of a played session make no such call at all.
      obtain ⟨step, belongs, made⟩ := makes
      rw [hooks _ added step belongs] at made
      cases made
    | room present belongs => exact Firing.staysInside_of_makes present (encloses.rooms _ present _ belongs) makes
    | item here carried belongs =>
      have confined := encloses.items _ (placed.carried _ carried) _ belongs
      exact Firing.staysInside_of_makes (World.room?_id_of_room? here) (confined _) makes

end Commands

/-! ### Sessions of an enclosed player -/

/-- The session is of a world whose rooms `inside` enclose the player, and in a state that this leads to. -/
structure Session.Confined (w : World) (inside : Set String) (session : Session) : Prop where
  world : session.game.world = w
  hooks : ∀ hook ∈ session.game.moveHooks, hook.OnlyShows
  placed : Placed w session.state
  enclosed : Enclosed w inside session.state

namespace Session
variable {w : World} {language : Language} {inside : Set String} {session : Session} {op : Operation} {ops : List Operation}

theorem Confined.initial (started : start w language = .ok session) (encloses : w.Encloses inside) :
    session.Confined w inside := by
  obtain ⟨sound, rfl⟩ := start_eq_ok started
  exact ⟨rfl, nofun, .initial (World.valid_of_defects_eq_nil sound), .initial encloses⟩

theorem staysInside_of_mem_calls (encloses : w.Encloses inside) (confined : session.Confined w inside)
    (ofPlayer : op.OfPlayer) : ∀ c ∈ session.calls op, c.StaysInside w inside := by
  intro c member
  obtain ⟨rfl, hooks, placed, enclosed⟩ := confined
  rcases handled_or_isReply_of_mem_calls ofPlayer member with ⟨raw, handled⟩ | reply
  · exact Game.staysInside_of_mem_handleCalls encloses placed hooks enclosed handled
  · exact Call.staysInside_of_isReply reply

theorem Confined.apply (encloses : w.Encloses inside) (confined : session.Confined w inside) (ofPlayer : op.OfPlayer) :
    (session.apply op).Confined w inside := by
  have played : (session.apply op).Played w := Played.apply ⟨confined.world, confined.hooks, confined.placed⟩ ofPlayer
  refine ⟨played.world, played.hooks, played.placed, ?_⟩
  rw [state_apply, confined.world]
  exact State.applyAll_induction (staysInside_of_mem_calls encloses confined ofPlayer) confined.enclosed
    fun s c stays enclosed => enclosed.apply stays

theorem Confined.run (encloses : w.Encloses inside) (confined : session.Confined w inside)
    (ofPlayer : ∀ op ∈ ops, op.OfPlayer) : (session.run ops).Confined w inside := by
  induction ops generalizing session with
  | nil => exact confined
  | cons op ops ih =>
    obtain ⟨first, rest⟩ := List.forall_mem_cons.mp ofPlayer
    exact ih (confined.apply encloses first) rest

end Session

/-! ### Enclosures in a file -/

/-- The exit is declared on one of the rooms `inside` and leads out of them. -/
structure WorldFile.WayOut (file : WorldFile) (inside : Set String) (r : RoomDecl) (x : ExitDecl) : Prop where
  declared : r ∈ file.rooms
  here : r.id ∈ inside
  member : x ∈ r.exits
  outside : x.target ∉ inside

/-- The player starts in one of the rooms `inside`, all ways out are declared blocked, no effect that is declared on
    the room of such an exit or on an item unblocks its direction, and no effect anywhere leads out. -/
structure WorldFile.Encloses (file : WorldFile) (inside : Set String) : Prop where
  start : file.header.startRoom ∈ inside
  blocked : ∀ r x, file.WayOut inside r x → x.blocked = true
  rooms : ∀ r x, file.WayOut inside r x → ∀ e ∈ r.effects, fold x.direction ∉ e.unblock.map fold
  items : ∀ r x, file.WayOut inside r x → ∀ i ∈ file.items, ∀ e ∈ i.effects, fold x.direction ∉ e.unblock.map fold
  goTo : ∀ e ∈ file.effects, ∀ id, e.goTo = some id → id ∈ inside

section Declared
variable {file : WorldFile} {inside : Set String}

theorem WorldFile.wayOut_of_wayOut_world {r : RoomDecl} {e : Exit} (declared : r ∈ file.rooms)
    (out : file.world.WayOut inside r.room e) : ∃ x, file.WayOut inside r x ∧ x.exit = e := by
  obtain ⟨x, member, made⟩ := List.mem_map.mp out.member
  subst made
  exact ⟨x, ⟨declared, out.here, member, out.outside⟩, rfl⟩

theorem EffectDecl.confined_steps {room : Room} {e : EffectDecl} (leads : ∀ id, e.goTo = some id → id ∈ inside)
    (shut : ∀ out, file.world.WayOut inside room out → out.direction ∉ e.unblock.map fold) :
    Effect.Confined file.world inside room e.steps where
  leads id member := leads id (go_mem_steps.mp (member.resolve_right enter_not_mem_steps))
  shut out wayOut member := by
    obtain ⟨d, listed, same⟩ := unblock_mem_steps.mp member
    exact shut out wayOut (List.mem_map.mpr ⟨d, listed, same⟩)

theorem WorldFile.Encloses.world (encloses : file.Encloses inside) : file.world.Encloses inside where
  start := encloses.start
  blocked room e out := by
    obtain ⟨r, declared, -, rfl, -⟩ := exists_of_room?_world out.present
    obtain ⟨x, wayOut, rfl⟩ := wayOut_of_wayOut_world declared out
    exact encloses.blocked r x wayOut
  rooms room present effect member := by
    obtain ⟨r, declared, -, rfl, -⟩ := exists_of_room?_world present
    rw [RoomDecl.effects_room] at member
    obtain ⟨e, listed, rfl⟩ := List.mem_map.mp member
    have known : e ∈ file.effects := List.mem_append_left _ (List.mem_flatMap.mpr ⟨r, declared, listed⟩)
    refine EffectDecl.confined_steps (encloses.goTo e known) fun out leaving => ?_
    obtain ⟨x, wayOut, rfl⟩ := wayOut_of_wayOut_world declared leaving
    exact encloses.rooms r x wayOut e listed
  items item stored effect member room := by
    obtain ⟨i, declared, rfl⟩ := List.mem_map.mp stored
    rw [ItemDecl.effects_item] at member
    obtain ⟨e, listed, rfl⟩ := List.mem_map.mp member
    have known : e ∈ file.effects := List.mem_append_right _ (List.mem_flatMap.mpr ⟨i, declared, listed⟩)
    refine EffectDecl.confined_steps (encloses.goTo e known) fun out leaving => ?_
    obtain ⟨r, exits, -, rfl, -⟩ := exists_of_room?_world leaving.present
    obtain ⟨x, wayOut, rfl⟩ := wayOut_of_wayOut_world exits leaving
    exact encloses.items r x wayOut i declared e listed

end Declared

namespace Session

/-- If rooms of a loaded world enclose the player, whatever a player asks for leaves the player in one of them. -/
theorem here_mem_of_encloses {file : WorldFile} {w : World} {language : Language} {session : Session}
    {inside : Set String} (loaded : World.ofFile file = .ok w) (started : start w language = .ok session)
    (encloses : file.Encloses inside) {ops : List Operation} (ofPlayer : ∀ op ∈ ops, op.OfPlayer) :
    (session.run ops).state.here ∈ inside := by
  obtain ⟨-, rfl⟩ := World.ofFile_eq_ok_iff.mp loaded
  have confined := Confined.initial started encloses.world
  exact (confined.run encloses.world ofPlayer).enclosed.here

/-- The gate of the yard stays shut: knocking opens the cell only, and the key locks what it fits. -/
theorem here_mem_of_encloses_yard :
    let yard : RoomDecl := { id := "yard", name := "Yard", exits := [⟨"n", "road", true⟩, ⟨"s", "cell", true⟩],
                             actions := [{ phrases := ["knock"], effect := { unblock := [" S "] } }] }
    let cell : RoomDecl := { id := "cell", name := "Cell", exits := [⟨"n", "yard", false⟩], onEnter := [{ goTo := some "yard" }] }
    let road : RoomDecl := { id := "road", name := "Road" }
    let key : ItemDecl := { name := "key", start := some "inventory",
                            actions := [{ phrases := ["turn key"], effect := { unblock := ["w"], block := ["s"] } }] }
    let file : WorldFile := { header := { id := "jail", name := "Jail", startRoom := "yard" }, rooms := [yard, cell, road],
                              items := [key] }
    let inside : Set String := {id | id ∈ ["yard", "cell"]}
    let session : Session := ⟨file.world.gameIn .english, file.world.initialState⟩
    let played := session.run [.opening, .step "knock", .step "s", .step "turn key", .command "n"]
    World.ofFile file = .ok file.world ∧ Session.start file.world .english = .ok session ∧ file.Encloses inside ∧
      played.state.here ∈ inside ∧ "road" ∉ inside := by
  intro yard cell road key file inside session played
  have loaded : World.ofFile file = .ok file.world := World.ofFile_eq_ok_of_isOk (by decide +kernel)
  have sound : file.world.defects = [] := by decide +kernel
  have started : Session.start file.world .english = .ok session := by rw [start, sound]
  have gates : ∀ r ∈ file.rooms, r.id ∈ ["yard", "cell"] → ∀ x ∈ r.exits, x.target ∉ ["yard", "cell"] →
      r = yard ∧ x = ⟨"n", "road", true⟩ := by decide +kernel
  have gate (r : RoomDecl) (x : ExitDecl) (out : file.WayOut inside r x) : r = yard ∧ x = ⟨"n", "road", true⟩ :=
    gates r out.declared out.here x out.member out.outside
  have encloses : file.Encloses inside := by
    refine ⟨by simp [file, inside], fun r x out => ?_, fun r x out => ?_, fun r x out => ?_, ?_⟩
    · obtain ⟨rfl, rfl⟩ := gate r x out
      rfl
    · obtain ⟨rfl, rfl⟩ := gate r x out
      decide +kernel
    · obtain ⟨rfl, rfl⟩ := gate r x out
      decide +kernel
    · simp [WorldFile.effects, RoomDecl.effects, ItemDecl.effects, file, yard, cell, road, key, inside]
  exact ⟨loaded, started, encloses, here_mem_of_encloses loaded started encloses (by simp [Operation.OfPlayer]),
    by simp [inside]⟩

end Session
end TextAdventure
