import TextAdventure.Proofs.Firings

/-! The answer of the first claimant. What a command does, the first of its candidates that claims it does alone, from the
    state in which the command was given. So an exit that declines does not move the player and an action that declines
    does not run; and of all the actions at most one fires its effect, whatever else fires being a hook of a room that is
    entered (`Game.handle_eq_answer_of_first_claimant`). -/

namespace TextAdventure.Game
variable {g : Game} {room : Room} {n : String} {s : State}

/-- In a valid world an exit leads to a room, where the hooks find the player. -/
theorem exists_answer_exit (valid : g.world.Valid) (here : g.world.room? s.here = some room) {e : Exit}
    (declared : e ∈ room.exits) :
    ∃ next, g.world.room? e.target = some next ∧ g.answer room n s (.exit e) = (g.enter next s, false) ∧
      g.enter next s = State.applyAll g.world { s with here := e.target } (g.hookCalls next s) := by
  obtain ⟨next, target⟩ := valid.exists_target here declared
  exact ⟨next, target, by rw [answer, target], enter_eq_hookCalls target s⟩

/-- An action whose requirements are carried makes the calls of its effect. -/
theorem answer_action_of_carried {a : Action} (carried : ∀ name ∈ a.requires, s.carries name = true) :
    g.answer room n s (.action a) = (s.applyAll g.world (g.fireCalls room a.effect s), false) := by
  rw [answer, if_pos carried, fire_eq_applyAll]

/-- In a world without defects a command is answered by the first of its candidates that claims it, from the state in which
    it was given. An exit leads to its target, where the hooks find the player; an action makes the calls of its effect if
    all that it requires is carried, and otherwise only says what is missing. At most one effect of an action fires, that of
    the claimant, and what fires besides are hooks of rooms that are entered; all that the command does to exits, items and
    the player comes from these effects, from the walk, or from taking and dropping. The candidates that decline leave no
    trace. -/
theorem handle_eq_answer_of_first_claimant (valid : g.world.defects = []) (here : g.world.room? s.here = some room)
    (raw : String) :
    let n := g.normalizer.normalize raw
    let c := g.claimant room n s
    (∃ declined later, candidates room s = declined ++ c :: later ∧ ∀ d ∈ declined, ¬g.Claims room n s d) ∧
      g.Claims room n s c ∧ g.handle raw s = g.answer room n s c ∧
      (∀ e, c = .exit e → ∃ next, g.world.room? e.target = some next ∧ g.handle raw s = (g.enter next s, false) ∧
        g.enter next s = State.applyAll g.world { s with here := e.target } (g.hookCalls next s)) ∧
      (∀ a, c = .action a →
        ((∀ name ∈ a.requires, s.carries name = true) →
          g.handle raw s = (s.applyAll g.world (g.fireCalls room a.effect s), false)) ∧
        ∀ name ∈ a.requires, s.carries name = false →
          g.handle raw s = (s.say (a.missingText.getD "You don't have that."), false)) ∧
      (∃ hooks, g.firings raw s = (fired? room s c).toList ++ hooks ∧ (∀ f ∈ hooks, g.IsHook f) ∧
        ((∀ e, c ≠ .exit e) → fired? room s c = none → hooks = [])) ∧
      ((g.handle raw s).1 = s.applyAll g.world (g.handleCalls raw s) ∧ ∀ call ∈ g.handleCalls raw s, call.Origin g raw s) ∧
      (room.exits ≠ [] → (∀ e ∈ room.exits, ¬g.Claims room n s (.exit e)) → g.tryMove room n s = (.notAMove, s)) ∧
      ∀ a, ¬g.Claims room n s (.action a) → g.tryAction room n a s = none := by
  intro n c
  obtain ⟨-, declined, later, split, missed⟩ := List.find?_eq_some_iff_append.mp (first?_candidates g room n s)
  have answered : g.handle raw s = g.answer room n s c := handle_eq_answer here raw
  have firings : g.firings raw s = g.answerFirings room s c := by rw [Game.firings, here]
  refine ⟨⟨declined, later, split, fun d earlier => by simpa using missed d earlier⟩, claims_claimant g room n s, answered,
    fun e won => ?_, fun a won => ?_, firings ▸ exists_answerFirings_eq g room s c,
    ⟨g.handle_eq_applyAll raw s, fun call made => origin_of_mem_handleCalls made⟩, tryMove_of_not_claims,
    fun a declines => ?_⟩
  · have candidate : .exit e ∈ candidates room s := won ▸ claimant_mem_candidates g room n s
    rw [answered, won]
    exact exists_answer_exit (World.valid_of_defects_eq_nil valid) here (mem_exits_of_mem_candidates candidate)
  · rw [answered, won]
    exact ⟨answer_action_of_carried, fun name required lacking => answer_action_of_lacking required lacking⟩
  · rw [tryAction, if_neg (mt claims_action_iff.mpr declines)]

/-- The bell is carried and the key is not; the way south leads to the yard, where the wind blows. -/
theorem handle_eq_answer_of_first_claimant_hall :
    let ring : Action := { phrases := ["ring bell"], requires := ["bell"], effect := [.say "Dong.", .unblock "n"] }
    let unlock : Action := { phrases := ["open gate"], requires := ["bell", "key"], effect := [.unblock "n"] }
    let hall : Room := { id := "hall", name := "Hall", exits := [⟨"n", "hall", true⟩, ⟨"s", "yard", false⟩],
                         actions := [ring, unlock] }
    let yard : Room := { id := "yard", name := "Yard", onEnter := [[.say "Wind."]] }
    let w : World := { id := "house", startRoom := "hall", rooms := .ofList _ [hall, yard],
                       items := [{ name := "bell", start := some .inventory }, .ofName "key"] }
    let g := w.gameIn .english
    let s := w.initialState
    g.world.defects = [] ∧ g.world.room? s.here = some hall ∧
      g.handle "ring the bell" s = (s.applyAll w [.say "Dong.", .setExitBlocked "hall" "n" false], false) ∧
      (∃ hooks, g.firings "ring the bell" s = ⟨some (.room "hall"), hall, ring.effect⟩ :: hooks ∧ ∀ f ∈ hooks, g.IsHook f) ∧
      g.handle "open the gate" s = (s.say "You don't have that.", false) ∧
      g.handle "go south" s = (State.applyAll w { s with here := "yard" } [.say "Wind."], false) := by
  intro ring unlock hall yard w g s
  have valid : g.world.defects = [] := by decide +kernel
  have here : g.world.room? s.here = some hall := by decide +kernel
  have rings : g.claimant hall (g.normalizer.normalize "ring the bell") s = .action ring := by decide +kernel
  have unlocks : g.claimant hall (g.normalizer.normalize "open the gate") s = .action unlock := by decide +kernel
  have walks : g.claimant hall (g.normalizer.normalize "go south") s = .exit ⟨"s", "yard", false⟩ := by decide +kernel
  obtain ⟨-, -, -, -, acts, ⟨hooks, fires, entered, -⟩, -⟩ :=
    handle_eq_answer_of_first_claimant valid here "ring the bell"
  obtain ⟨-, -, -, -, refuses, -⟩ := handle_eq_answer_of_first_claimant valid here "open the gate"
  obtain ⟨-, -, -, leads, -⟩ := handle_eq_answer_of_first_claimant valid here "go south"
  obtain ⟨next, target, led, arrives⟩ := leads _ walks
  have present : g.world.room? "yard" = some yard := by decide +kernel
  obtain rfl := Option.some.inj (target.symm.trans present)
  have own : fired? hall s (.action ring) = some ⟨some (.room "hall"), hall, ring.effect⟩ := by decide +kernel
  have dong : g.fireCalls hall ring.effect s = [.say "Dong.", .setExitBlocked "hall" "n" false] := by decide +kernel
  have wind : g.hookCalls yard s = [.say "Wind."] := by decide +kernel
  have arrived : g.enter yard s = State.applyAll w { s with here := "yard" } [.say "Wind."] := wind ▸ arrives
  refine ⟨valid, here, ?_, ⟨hooks, ?_, entered⟩, ?_, ?_⟩
  · rw [← dong]
    exact (acts ring rings).1 (by decide +kernel)
  · rw [fires, rings, own]
    rfl
  · exact (refuses unlock unlocks).2 "key" (by simp [unlock]) (by decide +kernel)
  · rw [led, arrived]

end TextAdventure.Game
