import TextAdventure.Proofs.ByteOrder
import TextAdventure.Proofs.Position

/-! The listed exits and the moves. A room lists each direction in which it has an open exit once, in ascending order.
    A command is a move exactly if it means a listed direction, and then it leads through the first declared open exit
    that it means (`Session.moves_follow_listing`). What the player types is brought into normal form first, and a
    direction need not be a normal form; so a listed direction may be out of reach (`Session.listed_walks_iff`). -/

namespace TextAdventure
open Text

/-! ### The listing -/

theorem Catalog.mem_values_ofList_id {xs : List String} {x : String} : x ∈ (ofList id xs).values ↔ x ∈ xs := by
  constructor
  · intro member
    rcases mem_insertAll member with old | listed
    · cases old
    · exact listed
  · intro listed
    have found : ((ofList id xs).get? x).isSome = true := by
      rw [get?_ofList, List.findRev?_eq_find?_reverse, List.find?_isSome]
      exact ⟨x, List.mem_reverse.mpr listed, beq_self_eq_true x⟩
    obtain ⟨y, found⟩ := Option.isSome_iff_exists.mp found
    obtain ⟨member, rfl⟩ := get?_eq_some_iff.mp found
    exact member

namespace State
variable {s : State} {room : Room} {d : String}

theorem mem_openDirections_iff :
    d ∈ s.openDirections room ↔ ∃ e ∈ room.exits, e.direction = d ∧ s.exitBlocked room.id e = false := by
  rw [openDirections, Catalog.mem_values_ofList_id, openExits, List.mem_map]
  simp only [List.mem_filter, Bool.not_eq_true']
  constructor
  · rintro ⟨e, ⟨declared, isOpen⟩, same⟩
    exact ⟨e, declared, same, isOpen⟩
  · rintro ⟨e, declared, same, isOpen⟩
    exact ⟨e, ⟨declared, isOpen⟩, same⟩

theorem openDirections_ascending (s : State) (room : Room) :
    (s.openDirections room).Pairwise fun x y => bytes x < bytes y :=
  (Catalog.ofList id _).ascending.imp lt_iff_bytes_lt.mp

theorem exitsLine_eq (s : State) (room : Room) :
    s.exitsLine room =
      "Exits: " ++ if s.openDirections room = [] then "(none)" else ", ".intercalate (s.openDirections room) := by
  rw [exitsLine]
  cases s.openDirections room <;> rfl

theorem allBlank_exitsLine (s : State) (room : Room) : allBlank (s.exitsLine room) = false := by
  rw [exitsLine_eq, allBlank, String.toList_append, List.all_append]
  rfl

/-- A room that is described shows its exits last. -/
theorem getLast?_render (s : State) (room : Room) :
    (s.render room).out.blocks.getLast? = some (.exits (s.exitsLine room)) := by
  rw [render, Output.setExits, if_neg (by simp [s.allBlank_exitsLine room])]
  exact List.getLast?_concat

end State

/-! ### The way that a command means -/

/-- The command means the direction: it is the direction's word or its full name. -/
def Directions.Means (directions : Directions) (command direction : String) : Prop :=
  command = direction ∨ directions.fullName? direction = some command

/-- Of the open exits of `room` whose direction the command means, `e` is declared first. -/
structure Game.FirstWay (g : Game) (room : Room) (command : String) (s : State) (e : Exit) : Prop where
  isOpen : s.exitBlocked room.id e = false
  meant : g.directions.Means command e.direction
  first : ∃ before after, room.exits = before ++ e :: after ∧
    ∀ x ∈ before, s.exitBlocked room.id x = false → ¬g.directions.Means command x.direction

namespace Game
variable {g : Game} {room next : Room} {command : String} {s : State} {e : Exit}

theorem FirstWay.member (way : g.FirstWay room command s e) : e ∈ room.exits := by
  obtain ⟨before, after, split, -⟩ := way.first
  simp [split]

theorem exitFor?_eq_some_iff : g.exitFor? room command s = some e ↔ g.FirstWay room command s e := by
  rw [exitFor?, List.find?_eq_some_iff_append]
  constructor
  · rintro ⟨hit, before, after, split, missed⟩
    obtain ⟨isOpen, meant⟩ := claims_exit_iff.mpr hit
    refine ⟨isOpen, meant, before, after, split, fun x earlier isOpen meant => ?_⟩
    have hit : (!s.exitBlocked room.id x && g.names command x) = true := claims_exit_iff.mp ⟨isOpen, meant⟩
    have miss := missed x earlier
    rw [hit] at miss
    cases miss
  · rintro ⟨isOpen, meant, before, after, split, missed⟩
    refine ⟨claims_exit_iff.mp ⟨isOpen, meant⟩, before, after, split, fun x earlier => ?_⟩
    rw [Bool.not_eq_true', Bool.eq_false_iff]
    intro hit
    obtain ⟨isOpen, meant⟩ := claims_exit_iff.mpr hit
    exact missed x earlier isOpen meant

theorem exists_claims_exit_iff :
    (∃ e ∈ room.exits, g.Claims room command s (.exit e)) ↔
      ∃ d ∈ s.openDirections room, g.directions.Means command d := by
  simp only [State.mem_openDirections_iff]
  constructor
  · rintro ⟨e, declared, isOpen, meant⟩
    exact ⟨e.direction, ⟨e, declared, rfl, isOpen⟩, meant⟩
  · rintro ⟨-, ⟨e, declared, rfl, isOpen⟩, meant⟩
    exact ⟨e, declared, isOpen, meant⟩

theorem exists_firstWay_iff :
    (∃ e, g.FirstWay room command s e) ↔ ∃ d ∈ s.openDirections room, g.directions.Means command d := by
  rw [← exists_claims_exit_iff]
  constructor
  · rintro ⟨e, way⟩
    exact ⟨e, way.member, way.isOpen, way.meant⟩
  · rintro ⟨e, declared, claims⟩
    have found : (g.exitFor? room command s).isSome = true :=
      List.find?_isSome.mpr ⟨e, declared, claims_exit_iff.mp claims⟩
    obtain ⟨first, found⟩ := Option.isSome_iff_exists.mp found
    exact ⟨first, exitFor?_eq_some_iff.mp found⟩

theorem tryMove_of_firstWay (way : g.FirstWay room command s e) (target : g.world.room? e.target = some next) :
    g.tryMove room command s = (.moved, g.enter next s) := by
  have exits : room.exits ≠ [] := List.ne_nil_of_mem way.member
  rw [tryMove, if_neg (by simpa using exits), exitFor?_eq_some_iff.mpr way]
  simp only [target]

theorem tryMove_of_unlisted (exits : room.exits ≠ [])
    (unlisted : ∀ d ∈ s.openDirections room, ¬g.directions.Means command d) :
    g.tryMove room command s = (.notAMove, s) := by
  refine tryMove_of_not_claims exits fun e declared claims => ?_
  obtain ⟨d, listed, meant⟩ := exists_claims_exit_iff.mp ⟨e, declared, claims⟩
  exact unlisted d listed meant

/-- In a world without defects the way leads to a room. -/
theorem FirstWay.exists_target (valid : g.world.Valid) (present : g.world.room? room.id = some room)
    (way : g.FirstWay room command s e) : ∃ next, g.world.room? e.target = some next :=
  valid.exists_target present way.member

theorem tryMove_eq_moved_iff (valid : g.world.Valid) (present : g.world.room? room.id = some room) (command : String)
    (s : State) :
    (g.tryMove room command s).1 = .moved ↔ ∃ d ∈ s.openDirections room, g.directions.Means command d := by
  constructor
  · intro moved
    by_contra unlisted
    by_cases exits : room.exits = []
    · simp [tryMove, exits] at moved
    · rw [tryMove_of_unlisted exits fun d listed meant => unlisted ⟨d, listed, meant⟩] at moved
      cases moved
  · intro listed
    obtain ⟨e, way⟩ := exists_firstWay_iff.mpr listed
    obtain ⟨next, target⟩ := way.exists_target valid present
    rw [tryMove_of_firstWay way target]

theorem handle_of_firstWay {raw : String} (here : g.world.room? s.here = some room)
    (way : g.FirstWay room (g.normalizer.normalize raw) s e) (target : g.world.room? e.target = some next) :
    g.handle raw s = (g.enter next s, false) := by
  have exits : room.exits ≠ [] := List.ne_nil_of_mem way.member
  have quitless : ¬(room.exits.isEmpty && isQuit (g.normalizer.normalize raw)) = true := by simp [exits]
  rw [handle, here]
  simp only [resolve]
  rw [if_neg quitless, tryMove_of_firstWay way target]
  rfl

/-- What the player types in `room` is resolved as a move through the open exit `e`. Its target is where the hooks find the
    player. -/
structure Walks (g : Game) (room : Room) (typed : String) (s : State) (e : Exit) : Prop where
  way : g.FirstWay room (g.normalizer.normalize typed) s e
  moved : ∃ next, g.world.room? e.target = some next ∧
    g.tryMove room (g.normalizer.normalize typed) s = (.moved, g.enter next s) ∧ g.handle typed s = (g.enter next s, false) ∧
    g.enter next s = State.applyAll g.world { s with here := e.target } (g.hookCalls next s)

theorem exists_walks_iff (valid : g.world.Valid) (here : g.world.room? s.here = some room) (typed : String) :
    (∃ e, g.Walks room typed s e) ↔
      ∃ d ∈ s.openDirections room, g.directions.Means (g.normalizer.normalize typed) d := by
  rw [← exists_firstWay_iff]
  constructor
  · rintro ⟨e, walks⟩
    exact ⟨e, walks.way⟩
  · rintro ⟨e, way⟩
    obtain ⟨next, target⟩ := way.exists_target valid (World.room?_id_of_room? here)
    exact ⟨e, way, next, target, tryMove_of_firstWay way target, handle_of_firstWay here way target,
      enter_eq_hookCalls target s⟩

end Game

/-! ### Every run of a session -/

namespace Session
variable {w : World} {language : Language} {session : Session}

theorem settled_run_of_start (started : start w language = .ok session) (ops : List Operation) :
    (session.run ops).game.normalizer.Settled := by
  obtain ⟨-, rfl⟩ := start_eq_ok started
  rw [game_run]
  exact Normalizer.settled_ofTables _ (AliasTable.folded_ofGroups _ _)

theorem valid_run_of_start (started : start w language = .ok session) (ops : List Operation) :
    (session.run ops).game.world.Valid := by
  rw [world_run_of_start started ops]
  exact valid_of_start started

/-- Whatever is asked of a session, the line of exits of a room shows each direction with an open exit once, in
    ascending order of bytes. A command is a move in this room exactly if it means a direction that is shown; the
    player is then in the target of the first declared open exit that it means, where the hooks fire, and stays there unless
    one of them takes the player elsewhere. Where the room has exits, every other command changes nothing. -/
theorem moves_follow_listing (started : start w language = .ok session) (ops : List Operation) {room : Room}
    (present : w.room? room.id = some room) (command : String) :
    let g := (session.run ops).game
    let s := (session.run ops).state
    let listed := s.openDirections room
    (s.render room).out.blocks.getLast? =
        some (.exits ("Exits: " ++ if listed = [] then "(none)" else ", ".intercalate listed)) ∧
      listed.Pairwise (fun x y => bytes x < bytes y) ∧
      (∀ d, d ∈ listed ↔ ∃ e ∈ room.exits, e.direction = d ∧ s.exitBlocked room.id e = false) ∧
      ((g.tryMove room command s).1 = .moved ↔ ∃ d ∈ listed, g.directions.Means command d) ∧
      ((g.tryMove room command s).1 = .moved → ∃ e next, g.FirstWay room command s e ∧
        w.room? e.target = some next ∧ g.tryMove room command s = (.moved, g.enter next s) ∧
        g.enter next s = State.applyAll w { s with here := e.target } (g.hookCalls next s) ∧
        ((∀ c ∈ g.hookCalls next s, c.hereAfter w e.target = e.target) → (g.enter next s).here = e.target)) ∧
      (room.exits ≠ [] → (∀ d ∈ listed, ¬g.directions.Means command d) →
        g.tryMove room command s = (.notAMove, s)) := by
  intro g s listed
  have world : g.world = w := world_run_of_start started ops
  have valid : g.world.Valid := valid_run_of_start started ops
  rw [← world] at present
  have moves := Game.tryMove_eq_moved_iff valid present command s
  refine ⟨?_, s.openDirections_ascending room, fun d => State.mem_openDirections_iff, moves, fun moved => ?_,
    Game.tryMove_of_unlisted⟩
  · rw [State.getLast?_render, State.exitsLine_eq]
  · obtain ⟨e, way⟩ := Game.exists_firstWay_iff.mpr (moves.mp moved)
    obtain ⟨next, target⟩ := way.exists_target valid present
    have arrives := Game.enter_eq_hookCalls target s
    have led := Game.tryMove_of_firstWay way target
    rw [world] at target arrives
    refine ⟨e, next, way, target, led, arrives, fun still => ?_⟩
    rw [arrives]
    exact State.here_applyAll still

/-- With both doors to the north shut, "n" is the full name of the way up. -/
theorem moves_follow_listing_hall :
    let up : Exit := ⟨"up", "attic", false⟩
    let hall : Room := { id := "hall", name := "Hall", exits := [⟨"n", "cellar", true⟩, up, ⟨"n", "yard", true⟩] }
    let attic : Room := { id := "attic", name := "Attic", onEnter := [[.say "Dust falls."]] }
    let w : World := { id := "house", startRoom := "hall", directions := [⟨"up", "n"⟩],
                       rooms := .ofList _ [hall, .ofId "cellar", attic, .ofId "yard"] }
    let session : Session := ⟨w.gameIn .english, w.initialState⟩
    let now := session.run [.opening, .step "north"]
    Session.start w .english = .ok session ∧ w.room? hall.id = some hall ∧ now.state.openDirections hall = ["up"] ∧
      now.game.FirstWay hall "n" now.state up ∧ w.room? up.target = some attic ∧
      now.game.tryMove hall "n" now.state = (.moved, now.game.enter attic now.state) ∧
      now.game.enter attic now.state = State.applyAll w { now.state with here := "attic" } [.say "Dust falls."] ∧
      (now.game.enter attic now.state).here = "attic" ∧
      now.game.tryMove hall "north" now.state = (.notAMove, now.state) := by
  intro up hall attic w session now
  have sound : w.defects = [] := by decide +kernel
  have started : Session.start w .english = .ok session := by rw [start, sound]
  have present : w.room? hall.id = some hall := by decide +kernel
  have leadsUp : w.room? up.target = some attic := by decide +kernel
  have listed : now.state.openDirections hall = ["up"] := by decide +kernel
  have onlyUp : ∀ e ∈ hall.exits, now.state.exitBlocked hall.id e = false → e = up := by decide +kernel
  have full : now.game.directions.fullName? "up" = some "n" := by decide +kernel
  have said : now.game.hookCalls attic now.state = [.say "Dust falls."] := by decide +kernel
  obtain ⟨-, -, -, moves, leads, -⟩ := moves_follow_listing started [.opening, .step "north"] present "n"
  obtain ⟨-, -, -, -, -, stays⟩ := moves_follow_listing started [.opening, .step "north"] present "north"
  obtain ⟨e, next, way, target, moved, arrives, still⟩ :=
    leads (moves.mpr ⟨"up", by rw [listed]; exact List.mem_singleton_self _, .inr full⟩)
  obtain rfl := onlyUp e way.member way.isOpen
  obtain rfl := Option.some.inj (target.symm.trans leadsUp)
  refine ⟨started, present, listed, way, target, moved, said ▸ arrives, still (by rw [said]; simp [Call.hereAfter]),
    stays (by simp [hall]) fun d shown meant => ?_⟩
  rw [listed, List.mem_singleton] at shown
  subst shown
  rcases meant with same | same
  · exact absurd same (by decide)
  · exact absurd (full.symm.trans same) (by decide)

/-- A listed direction, or its full name, that the player types is resolved as a move through an open exit exactly if
    its normal form means a listed direction. So a text that is its own normal form always is. -/
theorem listed_walks_iff (started : start w language = .ok session) (ops : List Operation) {room : Room}
    (here : w.room? (session.run ops).state.here = some room) {d typed : String}
    (listed : d ∈ (session.run ops).state.openDirections room)
    (meant : (session.run ops).game.directions.Means typed d) :
    let g := (session.run ops).game
    let s := (session.run ops).state
    ((∃ e, g.Walks room typed s e) ↔
        ∃ x ∈ s.openDirections room, g.directions.Means (g.normalizer.normalize typed) x) ∧
      (g.normalizer.IsCanonical typed → ∃ e, g.Walks room typed s e) := by
  intro g s
  rw [← world_run_of_start started ops] at here
  have walks := Game.exists_walks_iff (valid_run_of_start started ops) here typed
  refine ⟨walks, fun canonical => walks.mpr ⟨d, listed, ?_⟩⟩
  rw [Normalizer.normalize_of_isCanonical (settled_run_of_start started ops) canonical]
  exact meant

/-- Words with a space between them are a normal form, and so is the full name of "n". -/
theorem listed_walks_iff_yard :
    let yard : Room := { id := "yard", name := "Yard", exits := [⟨"under bridge", "yard", false⟩, ⟨"n", "yard", true⟩] }
    let w : World := { id := "farm", startRoom := "yard", rooms := .ofList _ [yard] }
    let session : Session := ⟨w.gameIn .english, w.initialState⟩
    let now := session.run [.setExitBlocked "yard" "n" false]
    Session.start w .english = .ok session ∧ w.room? now.state.here = some yard ∧
      ("under bridge" ∈ now.state.openDirections yard ∧ "n" ∈ now.state.openDirections yard) ∧
      now.game.directions.Means "north" "n" ∧ now.game.normalizer.IsCanonical "north" ∧
      (∃ e, now.game.Walks yard "under bridge" now.state e) ∧ ∃ e, now.game.Walks yard "north" now.state e := by
  intro yard w session now
  have sound : w.defects = [] := by decide +kernel
  have started : Session.start w .english = .ok session := by rw [start, sound]
  have here : w.room? now.state.here = some yard := by decide +kernel
  have bridge : "under bridge" ∈ now.state.openDirections yard := by decide +kernel
  have north : "n" ∈ now.state.openDirections yard := by decide +kernel
  have full : now.game.directions.Means "north" "n" := .inr (by decide +kernel)
  have bridgeKept : now.game.normalizer.normalize "under bridge" = "under bridge" := by decide +kernel
  have northKept : now.game.normalizer.normalize "north" = "north" := by decide +kernel
  have settled := settled_run_of_start started [.setExitBlocked "yard" "n" false]
  have canonical : now.game.normalizer.IsCanonical "north" := northKept ▸ Normalizer.isCanonical_normalize settled "north"
  obtain ⟨walks, -⟩ := listed_walks_iff started [.setExitBlocked "yard" "n" false] here bridge (.inl rfl)
  obtain ⟨-, walksNorth⟩ := listed_walks_iff started [.setExitBlocked "yard" "n" false] here north full
  exact ⟨started, here, ⟨bridge, north⟩, full, canonical,
    walks.mpr ⟨"under bridge", bridge, .inl bridgeKept⟩, walksNorth canonical⟩

/-- A direction with a hyphen, one that is an alias for "look", one that is a junk word of the world, and the full
    name of a direction with a hyphen. -/
theorem listed_not_walked :
    let hall (direction : String) : Room := { id := "hall", name := "Hall", exits := [⟨direction, "hall", false⟩] }
    let w (direction : String) : World := { id := "house", startRoom := "hall", rooms := .ofList _ [hall direction],
                                            junk := ["out"], directions := [⟨"se", "south-east"⟩] }
    let session (direction : String) : Session := ⟨(w direction).gameIn .english, (w direction).initialState⟩
    ∀ c ∈ [("north-east", "north-east"), ("l", "l"), ("out", "out"), ("se", "south-east")],
      Session.start (w c.1) .english = .ok (session c.1) ∧ c.1 ∈ (session c.1).state.openDirections (hall c.1) ∧
        (session c.1).game.directions.Means c.2 c.1 ∧
        ((session c.1).game.tryMove (hall c.1) ((session c.1).game.normalizer.normalize c.2) (session c.1).state).1 ≠ .moved ∧
        ¬∃ e, (session c.1).game.Walks (hall c.1) c.2 (session c.1).state e := by
  intro hall w session c member
  have stays : ∀ c ∈ [("north-east", "north-east"), ("l", "l"), ("out", "out"), ("se", "south-east")],
      (w c.1).defects = [] ∧ c.1 ∈ (session c.1).state.openDirections (hall c.1) ∧
        (c.2 = c.1 ∨ (session c.1).game.directions.fullName? c.1 = some c.2) ∧
        ((session c.1).game.tryMove (hall c.1) ((session c.1).game.normalizer.normalize c.2) (session c.1).state).1 ≠
          .moved := by decide +kernel
  obtain ⟨sound, listed, meant, unmoved⟩ := stays c member
  refine ⟨by rw [start, sound], listed, meant, unmoved, fun ⟨e, walks⟩ => ?_⟩
  obtain ⟨next, -, moved, -⟩ := walks.moved
  exact unmoved (by rw [moved])

end Session
end TextAdventure
