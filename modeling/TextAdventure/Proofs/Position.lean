import TextAdventure.Proofs.Items

/-! Where the player is. Two calls move the player: the entry of a room, which is one of the world, and `goTo`,
    which asks the world for its room first. So in a session of a world without defects the player always stands
    in a room of the world, and what is said for a player who does not is never said. -/

namespace TextAdventure

/-- Where a call leaves a player who is at `here`. -/
def Call.hereAfter (w : World) (here : String) : Call → String
  | .arrive room => room
  | .goTo room => if w.hasRoom room then room else here
  | _ => here

/-- Calls other than `setExitBlocked` leave the exits alone, and what a call does to the player depends on nothing
    but where the player is. -/
theorem Call.here_and_blocked_apply (w : World) (s : State) (c : Call) :
    (c.apply w s).here = c.hereAfter w s.here ∧
      ((∃ room direction blocked, c = .setExitBlocked room direction blocked) ∨ (c.apply w s).blocked = s.blocked) := by
  cases c with
  | listInventory =>
    obtain ⟨out, shown⟩ := s.exists_listInventory_eq
    rw [apply, shown]
    exact ⟨rfl, .inr rfl⟩
  | examine room name =>
    obtain ⟨out, shown⟩ := s.exists_examine_eq room name
    rw [apply, shown]
    exact ⟨rfl, .inr rfl⟩
  | goTo room =>
    rw [apply, State.goTo, hereAfter]
    split <;> exact ⟨rfl, .inr rfl⟩
  | setExitBlocked room direction blocked =>
    refine ⟨?_, .inl ⟨room, direction, blocked, rfl⟩⟩
    rw [apply, State.setExitBlocked]
    split <;> rfl
  | give name =>
    rw [apply, State.give]
    split <;> exact ⟨rfl, .inr rfl⟩
  | take room name =>
    rw [apply]
    rcases s.take_cases room name with ⟨out, shown⟩ | ⟨item, -, -, -, taken⟩
    · rw [shown]
      exact ⟨rfl, .inr rfl⟩
    · rw [taken]
      exact ⟨rfl, .inr rfl⟩
  | drop room name =>
    rw [apply]
    rcases s.drop_cases room name with ⟨out, shown⟩ | ⟨item, -, -, dropped⟩
    · rw [shown]
      exact ⟨rfl, .inr rfl⟩
    · rw [dropped]
      exact ⟨rfl, .inr rfl⟩
  | _ => exact ⟨rfl, .inr rfl⟩

theorem Call.here_apply (w : World) (s : State) (c : Call) : (c.apply w s).here = c.hereAfter w s.here :=
  (here_and_blocked_apply w s c).1

/-- Calls that leave a player here do so one after the other. -/
theorem State.here_applyAll {w : World} {s : State} {calls : List Call}
    (still : ∀ c ∈ calls, c.hereAfter w s.here = s.here) : (s.applyAll w calls).here = s.here := by
  refine applyAll_induction (P := fun t => t.here = s.here) still rfl fun t c still same => ?_
  rw [Call.here_apply, same, still]

/-- A call within the world leaves the player in a room of the world. -/
theorem Call.hasRoom_here_apply {w : World} {s : State} {c : Call} (inWorld : c.InWorld w)
    (present : w.hasRoom s.here = true) : w.hasRoom (c.apply w s).here = true := by
  rw [here_apply]
  cases c with
  | arrive room => exact inWorld
  | goTo room =>
    rw [hereAfter]
    split
    · next found => exact found
    · exact present
  | _ => exact present

namespace Session

theorem hasRoom_here {w : World} {language : Language} {session : Session} (started : start w language = .ok session)
    (ops : List Operation) : w.hasRoom (session.run ops).state.here = true := by
  obtain ⟨sound, rfl⟩ := start_eq_ok started
  have valid := World.valid_of_defects_eq_nil sound
  exact run_induction (P := fun s => w.hasRoom s.here = true) rfl valid.startRoom
    fun s c inWorld present => c.hasRoom_here_apply inWorld present

/-- Whatever is asked of a session, the player stands in a room of the world. So each command is resolved there,
    and none is answered with an unknown room or with an exit that leads nowhere. -/
theorem player_stands_in_room {w : World} {language : Language} {session : Session}
    (started : start w language = .ok session) (ops : List Operation) :
    let now := session.run ops
    ∃ room, w.room? now.state.here = some room ∧
      (∀ raw, now.game.handle raw now.state = now.game.resolve room (now.game.normalizer.normalize raw) now.state) ∧
      ∀ command, (now.game.tryMove room command now.state).1 ≠ .broken := by
  intro now
  obtain ⟨room, here⟩ := World.exists_room?_of_hasRoom (hasRoom_here started ops)
  have world : now.game.world = w := world_run_of_start started ops
  have valid := World.valid_of_defects_eq_nil (start_eq_ok started).1
  refine ⟨room, here, fun raw => ?_, fun command broken => ?_⟩
  · rw [Game.handle, world, here]
  · rw [Game.tryMove, world] at broken
    split at broken
    · cases broken
    · split at broken
      · cases broken
      · next e found =>
        -- An exit is taken that the room declares, and validation has found its target.
        have member := List.mem_of_find?_eq_some found
        obtain ⟨next, target⟩ := valid.exists_target here member
        rw [target] at broken
        cases broken

/-- The shed sends the player back to the yard, and there is no moon to go to. -/
theorem player_stands_in_room_yard :
    let yard : Room := { id := "yard", name := "Yard", exits := [⟨"n", "shed", false⟩] }
    let shed : Room := { id := "shed", name := "Shed", exits := [⟨"s", "yard", false⟩], onEnter := [[.go "yard"]] }
    let w : World := { id := "farm", startRoom := "yard", rooms := .ofList _ [yard, shed] }
    let session : Session := ⟨w.gameIn .english, w.initialState⟩
    let now := session.run [.onMove [.render], .step "go north", .goTo "moon"]
    Session.start w .english = .ok session ∧ w.room? now.state.here = some yard ∧
      (now.game.tryMove yard "n" now.state).1 ≠ .broken := by
  intro yard shed w session now
  have sound : w.defects = [] := by decide +kernel
  have started : Session.start w .english = .ok session := by rw [start, sound]
  have back : w.room? now.state.here = some yard := by decide +kernel
  obtain ⟨room, here, -, unbroken⟩ := player_stands_in_room started [.onMove [.render], .step "go north", .goTo "moon"]
  obtain rfl := Option.some.inj (back.symm.trans here)
  exact ⟨started, back, unbroken "n"⟩

end Session
end TextAdventure
