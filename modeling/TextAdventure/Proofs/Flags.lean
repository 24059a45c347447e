import TextAdventure.Proofs.Movement

/-! The flags of exits. A flag belongs to a direction of a room and not to one exit: exits of a room that lead in one
    direction are blocked together and open together. So a session starts with an exit blocked if any exit of its
    direction is declared so, and a declared flag counts only where the others of the direction agree with it. From then
    on an exit has the flag that the last toggle has given it (`Session.flags_follow_last_toggle`). -/

namespace TextAdventure
open Text

/-- No exit of the room in this direction is declared blocked. -/
def Room.StartsOpen (room : Room) (direction : String) : Prop :=
  ∀ x ∈ room.exits, x.direction = direction → x.blocked = false

/-! ### Flags at the start -/

theorem World.mem_blocked_initialState {w : World} {p : Passage} :
    p ∈ w.initialState.blocked ↔
      ∃ room, w.room? p.room = some room ∧ ∃ x ∈ room.exits, x.direction = p.direction ∧ x.blocked = true := by
  simp only [initialState, List.mem_flatMap, List.mem_map, List.mem_filter]
  constructor
  · rintro ⟨room, member, x, ⟨declared, blocked⟩, rfl⟩
    exact ⟨room, Catalog.get?_eq_some_iff.mpr ⟨member, rfl⟩, x, declared, rfl, blocked⟩
  · rintro ⟨room, found, x, declared, same, blocked⟩
    refine ⟨room, mem_rooms_of_room? found, x, ⟨declared, blocked⟩, ?_⟩
    rw [id_of_room? found, same]

theorem World.exitBlocked_initialState {w : World} {room : Room} (present : w.room? room.id = some room) (e : Exit) :
    w.initialState.exitBlocked room.id e = false ↔ room.StartsOpen e.direction := by
  rw [State.exitBlocked, Bool.eq_false_iff, ne_eq, List.contains_iff_mem, mem_blocked_initialState]
  constructor
  · intro unblocked x declared same
    rw [Bool.eq_false_iff]
    intro blocked
    exact unblocked ⟨room, present, x, declared, same, blocked⟩
  · rintro startsOpen ⟨other, found, x, declared, same, blocked⟩
    obtain rfl := Option.some.inj (present.symm.trans found)
    rw [startsOpen x declared same] at blocked
    cases blocked

/-! ### Until the first toggle -/

/-- The call blocks or opens exits. -/
def Call.toggles : Call → Bool
  | .setExitBlocked .. => true
  | _ => false

theorem State.blocked_applyAll {w : World} {s : State} {calls : List Call} (quiet : ∀ c ∈ calls, c.toggles = false) :
    (s.applyAll w calls).blocked = s.blocked := by
  refine applyAll_induction (P := fun t => t.blocked = s.blocked) quiet rfl fun t c quiet same => ?_
  rcases (c.here_and_blocked_apply w t).2 with ⟨room, direction, blocked, rfl⟩ | kept
  · cases quiet
  · exact kept.trans same

/-! ### The last toggle -/

/-- The world has an exit in this direction of this room. -/
def World.HasPassage (w : World) (p : Passage) : Prop :=
  ∃ room, w.room? p.room = some room ∧ ∃ e ∈ room.exits, e.direction = p.direction

section Toggles
variable {w : World} {s : State} {room : Room} {e : Exit} {calls : List Call} {b : Bool}

theorem World.hasPassage_iff {p : Passage} :
    w.HasPassage p ↔ ((w.room? p.room).bind (·.exit? p.direction)).isSome = true := by
  rw [HasPassage, Option.isSome_bind, Option.any_eq_true]
  simp [Room.exit?, and_comm]

instance : DecidablePred w.HasPassage := fun _ => decidable_of_iff _ World.hasPassage_iff.symm

/-- A toggle of an exit that the world does not have changes nothing. -/
theorem State.setExitBlocked_eq_self {id direction : String} (missing : ¬w.HasPassage ⟨id, direction⟩) :
    s.setExitBlocked w id direction b = s := by
  rw [World.hasPassage_iff, Option.not_isSome_iff_eq_none] at missing
  rw [setExitBlocked, missing]

theorem State.exitBlocked_setExitBlocked_self (present : w.room? room.id = some room) (declared : e ∈ room.exits) :
    (s.setExitBlocked w room.id e.direction b).exitBlocked room.id e = b := by
  have found : w.HasPassage ⟨room.id, e.direction⟩ := ⟨room, present, e, declared, rfl⟩
  rw [exitBlocked_setExitBlocked, if_pos ⟨World.hasPassage_iff.mp found, rfl, rfl⟩]

/-- A call that is no toggle of this room and direction leaves the flag alone. -/
theorem Call.exitBlocked_apply {id : String} {c : Call} (other : ∀ b, c ≠ .setExitBlocked id e.direction b) :
    (c.apply w s).exitBlocked id e = s.exitBlocked id e := by
  rcases (c.here_and_blocked_apply w s).2 with ⟨id', direction, b, rfl⟩ | kept
  · rw [apply, State.exitBlocked_setExitBlocked, if_neg]
    rintro ⟨-, rfl, rfl⟩
    exact other b rfl
  · rw [State.exitBlocked, kept, State.exitBlocked]

theorem State.exitBlocked_applyAll_of_untouched {id : String} (untouched : ∀ b, .setExitBlocked id e.direction b ∉ calls) :
    (s.applyAll w calls).exitBlocked id e = s.exitBlocked id e := by
  refine applyAll_induction (Q := fun c => ∀ b, c ≠ .setExitBlocked id e.direction b)
    (P := fun t => t.exitBlocked id e = s.exitBlocked id e) (fun c member b same => ?_) rfl fun t c other same => ?_
  · exact untouched b (same ▸ member)
  · exact (c.exitBlocked_apply other).trans same

theorem State.exitBlocked_applyAll_of_last (present : w.room? room.id = some room) (declared : e ∈ room.exits)
    {before after : List Call} (split : calls = before ++ .setExitBlocked room.id e.direction b :: after)
    (last : ∀ b', .setExitBlocked room.id e.direction b' ∉ after) : (s.applyAll w calls).exitBlocked room.id e = b := by
  rw [split, applyAll_append, applyAll_cons, exitBlocked_applyAll_of_untouched last]
  exact exitBlocked_setExitBlocked_self present declared

/-- No call blocks a passage that the world does not have. -/
theorem Call.hasPassage_of_mem_blocked {c : Call} (known : ∀ p ∈ s.blocked, w.HasPassage p) :
    ∀ p ∈ (c.apply w s).blocked, w.HasPassage p := by
  rcases (c.here_and_blocked_apply w s).2 with ⟨id, direction, b, rfl⟩ | kept
  · by_cases found : w.HasPassage ⟨id, direction⟩
    · intro p member
      obtain ⟨exit, here⟩ := Option.isSome_iff_exists.mp (World.hasPassage_iff.mp found)
      rw [apply, State.setExitBlocked, here] at member
      cases b with
      | true =>
        rcases List.mem_append.mp member with old | new
        · exact known p (List.mem_of_mem_filter old)
        · exact List.mem_singleton.mp new ▸ found
      | false => exact known p (List.mem_of_mem_filter member)
    · rwa [apply, State.setExitBlocked_eq_self found]
  · rwa [kept]

end Toggles

namespace Session
variable {w : World} {language : Language} {session : Session} {ops : List Operation} {room : Room}

theorem exitBlocked_run_of_quiet (started : start w language = .ok session)
    (quiet : ∀ c ∈ session.log ops, c.toggles = false) (present : w.room? room.id = some room) (e : Exit) :
    (session.run ops).state.exitBlocked room.id e = false ↔ room.StartsOpen e.direction := by
  obtain ⟨-, rfl⟩ := start_eq_ok started
  rw [← World.exitBlocked_initialState present, state_run, State.exitBlocked, State.blocked_applyAll quiet]
  rfl

/-- From the start of a session to its first toggle an exit is open exactly if no exit of its room in its direction
    is declared blocked; so it has its own declared flag where those of its direction agree. A command leads through
    the first exit it means that is open in this way, to its target, where the hooks find the player; and where there is
    none it is not a move. -/
theorem starts_open_iff (started : start w language = .ok session) (quiet : ∀ c ∈ session.log ops, c.toggles = false)
    (present : w.room? room.id = some room) :
    let g := (session.run ops).game
    let s := (session.run ops).state
    (∀ e ∈ room.exits, s.exitBlocked room.id e = false ↔ room.StartsOpen e.direction) ∧
      (∀ e ∈ room.exits, (∀ x ∈ room.exits, x.direction = e.direction → x.blocked = e.blocked) →
        s.exitBlocked room.id e = e.blocked) ∧
      (∀ command before e after, room.exits = before ++ e :: after → room.StartsOpen e.direction →
        g.directions.Means command e.direction →
        (∀ x ∈ before, room.StartsOpen x.direction → ¬g.directions.Means command x.direction) →
        ∃ next, w.room? e.target = some next ∧ g.tryMove room command s = (.moved, g.enter next s) ∧
          g.enter next s = State.applyAll w { s with here := e.target } (g.hookCalls next s)) ∧
      ∀ command, room.exits ≠ [] →
        (∀ e ∈ room.exits, room.StartsOpen e.direction → ¬g.directions.Means command e.direction) →
        g.tryMove room command s = (.notAMove, s) := by
  intro g s
  have world : g.world = w := world_run_of_start started ops
  have valid : g.world.Valid := valid_run_of_start started ops
  have flags (e : Exit) : s.exitBlocked room.id e = false ↔ room.StartsOpen e.direction :=
    exitBlocked_run_of_quiet started quiet present e
  rw [← world] at present
  refine ⟨fun e _ => flags e, fun e declared agree => ?_, fun command before e after split startsOpen meant earlier => ?_,
    fun command exits unmeant => ?_⟩
  · cases blocked : e.blocked with
    | false => exact (flags e).mpr fun x member same => (agree x member same).trans blocked
    | true =>
      by_contra notBlocked
      rw [Bool.not_eq_true] at notBlocked
      have := (flags e).mp notBlocked e declared rfl
      rw [blocked] at this
      cases this
  · have way : g.FirstWay room command s e :=
      ⟨(flags e).mpr startsOpen, meant, before, after, split, fun x member isOpen => earlier x member ((flags x).mp isOpen)⟩
    obtain ⟨next, target⟩ := way.exists_target valid present
    have arrives := Game.enter_eq_hookCalls target s
    have moved := Game.tryMove_of_firstWay way target
    rw [world] at target arrives
    exact ⟨next, target, moved, arrives⟩
  · exact Game.tryMove_of_not_claims exits fun e declared claims => unmeant e declared ((flags e).mp claims.1) claims.2

/-- Of two open doors to the north the first is taken; the doors to the south are shut, as one of them is declared so. -/
theorem starts_open_iff_hall :
    let hall : Room := { id := "hall", name := "Hall", exits := [⟨"s", "cellar", true⟩, ⟨"s", "yard", false⟩,
                                                                 ⟨"n", "attic", false⟩, ⟨"n", "cellar", false⟩] }
    let w : World := { id := "house", startRoom := "hall",
                       rooms := .ofList _ [hall, .ofId "cellar", .ofId "attic", .ofId "yard"] }
    let session : Session := ⟨w.gameIn .english, w.initialState⟩
    let now := session.run [.opening, .step "south"]
    Session.start w .english = .ok session ∧ (∀ c ∈ session.log [.opening, .step "south"], c.toggles = false) ∧
      w.room? hall.id = some hall ∧ hall.StartsOpen "n" ∧ now.game.directions.Means "north" "n" ∧
      now.state.exitBlocked "hall" ⟨"n", "attic", false⟩ = false ∧
      ∃ next, w.room? "attic" = some next ∧
        now.game.tryMove hall "north" now.state = (.moved, now.game.enter next now.state) ∧
        now.game.enter next now.state =
          State.applyAll w { now.state with here := "attic" } (now.game.hookCalls next now.state) := by
  intro hall w session now
  have sound : w.defects = [] := by decide +kernel
  have started : Session.start w .english = .ok session := by rw [start, sound]
  have quiet : ∀ c ∈ session.log [.opening, .step "south"], c.toggles = false := by decide +kernel
  have present : w.room? hall.id = some hall := by decide +kernel
  have north : hall.StartsOpen "n" := by unfold Room.StartsOpen; decide
  have south : ¬hall.StartsOpen "s" := by unfold Room.StartsOpen; decide
  have full : now.game.directions.Means "north" "n" := .inr (by decide +kernel)
  obtain ⟨flags, -, leads, -⟩ := starts_open_iff started quiet present
  refine ⟨started, quiet, present, north, full, (flags ⟨"n", "attic", false⟩ (by simp [hall])).mpr north,
    leads "north" [⟨"s", "cellar", true⟩, ⟨"s", "yard", false⟩] ⟨"n", "attic", false⟩ [⟨"n", "cellar", false⟩] rfl north full ?_⟩
  simp [south]

/-- The open door to the north is shut at the start, and no command leads through it. -/
theorem declared_flag_lost :
    let hall : Room := { id := "hall", name := "Hall", exits := [⟨"n", "cellar", true⟩, ⟨"n", "yard", false⟩] }
    let w : World := { id := "house", startRoom := "hall", rooms := .ofList _ [hall, .ofId "cellar", .ofId "yard"] }
    let session : Session := ⟨w.gameIn .english, w.initialState⟩
    Session.start w .english = .ok session ∧ w.room? "hall" = some hall ∧
      session.state.exitBlocked hall.id ⟨"n", "yard", false⟩ = true ∧
      session.game.tryMove hall "n" session.state = (.notAMove, session.state) := by
  intro hall w session
  have sound : w.defects = [] := by decide +kernel
  have shut : ∀ e ∈ hall.exits, session.state.exitBlocked hall.id e = true := by decide +kernel
  refine ⟨by rw [start, sound], by decide +kernel, shut _ (by simp [hall]), ?_⟩
  refine Game.tryMove_of_not_claims (by simp [hall]) fun e declared claims => ?_
  have isOpen := claims.1
  rw [shut e declared] at isOpen
  cases isOpen

/-- Whatever is asked of a session, which is what its log says, an exit has the flag that the last toggle of its room
    and direction has given it, or its flag from the start if there was none. A toggle of an exit that the world does
    not have changes nothing, calls that are no toggles leave all flags alone, and only exits of the world are blocked. -/
theorem flags_follow_last_toggle (started : start w language = .ok session) (ops : List Operation) :
    let s := (session.run ops).state
    let log := session.log ops
    s = session.state.applyAll w log ∧
      (∀ room, w.room? room.id = some room → ∀ e ∈ room.exits,
        (∀ before b after, log = before ++ .setExitBlocked room.id e.direction b :: after →
          (∀ b', .setExitBlocked room.id e.direction b' ∉ after) → s.exitBlocked room.id e = b) ∧
        ((∀ b, .setExitBlocked room.id e.direction b ∉ log) →
          s.exitBlocked room.id e = session.state.exitBlocked room.id e)) ∧
      (∀ id direction b (t : State), ¬w.HasPassage ⟨id, direction⟩ → t.setExitBlocked w id direction b = t) ∧
      (∀ (c : Call) (t : State), c.toggles = false → (c.apply w t).blocked = t.blocked) ∧
      ∀ p ∈ s.blocked, w.HasPassage p := by
  intro s log
  obtain ⟨-, rfl⟩ := start_eq_ok started
  have logged : s = w.initialState.applyAll w log := state_run
  refine ⟨logged, fun room present e declared => ⟨fun before b after split last => ?_, fun untouched => ?_⟩,
    fun id direction b t missing => State.setExitBlocked_eq_self missing, fun c t quiet => ?_, ?_⟩
  · rw [logged]
    exact State.exitBlocked_applyAll_of_last present declared split last
  · rw [logged]
    exact State.exitBlocked_applyAll_of_untouched untouched
  · have alone : ∀ d ∈ [c], d.toggles = false := by simpa using quiet
    exact State.blocked_applyAll alone
  · refine run_induction (P := fun t => ∀ p ∈ t.blocked, w.HasPassage p) rfl (fun p member => ?_)
      fun t c _ known => c.hasPassage_of_mem_blocked known
    obtain ⟨room, found, e, declared, same, -⟩ := World.mem_blocked_initialState.mp member
    exact ⟨room, found, e, declared, same⟩

/-- The lever opens the way to the yard. There the way back is shut, and there is nothing to shut in the north. -/
theorem flags_follow_last_toggle_gate :
    let hall : Room := { id := "hall", name := "Hall", exits := [⟨"n", "yard", true⟩],
                         actions := [.ofPhrases ["pull lever"] [.unblock "n"]] }
    let yard : Room := { id := "yard", name := "Yard", exits := [⟨"s", "hall", false⟩], onEnter := [[.block "n", .block "s"]] }
    let w : World := { id := "house", startRoom := "hall", rooms := .ofList _ [hall, yard] }
    let session : Session := ⟨w.gameIn .english, w.initialState⟩
    let ops : List Operation := [.step "pull lever", .step "go north"]
    Session.start w .english = .ok session ∧ w.room? hall.id = some hall ∧ w.room? yard.id = some yard ∧
      session.log ops = [.setExitBlocked "hall" "n" false, .takeOutput, .arrive "yard", .setExitBlocked "yard" "n" true,
        .setExitBlocked "yard" "s" true, .takeOutput] ∧
      (session.run ops).state.exitBlocked "hall" ⟨"n", "yard", true⟩ = false ∧
      (session.run ops).state.exitBlocked "yard" ⟨"s", "hall", false⟩ = true ∧
      ∀ t : State, t.setExitBlocked w "yard" "n" true = t := by
  intro hall yard w session ops
  have sound : w.defects = [] := by decide +kernel
  have started : Session.start w .english = .ok session := by rw [start, sound]
  have inHall : w.room? hall.id = some hall := by decide +kernel
  have inYard : w.room? yard.id = some yard := by decide +kernel
  let before : List Call := [.setExitBlocked "hall" "n" false, .takeOutput, .arrive "yard", .setExitBlocked "yard" "n" true]
  have log : session.log ops = before ++ [.setExitBlocked "yard" "s" true, .takeOutput] := by decide +kernel
  have wall : ¬w.HasPassage ⟨"yard", "n"⟩ := by
    rintro ⟨room, found, e, declared, same⟩
    obtain rfl := Option.some.inj (inYard.symm.trans found)
    simp [yard] at declared
    simp [declared] at same
  obtain ⟨-, flags, missing, -⟩ := flags_follow_last_toggle started ops
  refine ⟨started, inHall, inYard, log, ?_, ?_, fun t => missing "yard" "n" true t wall⟩
  · exact (flags hall inHall ⟨"n", "yard", true⟩ (by simp [hall])).1 [] false _ log (by simp [hall])
  · exact (flags yard inYard ⟨"s", "hall", false⟩ (by simp [yard])).1 before true [.takeOutput] log (by simp)

end Session
end TextAdventure
