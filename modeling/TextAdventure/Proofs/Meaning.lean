import TextAdventure.Proofs.Answers
import TextAdventure.Proofs.Arrival

/-! Effects with a meaning of their own. An effect is a list of steps, each of them an operation of the session, so it
    cannot touch the game. A program that plays may let its effects do more: it has the whole session in its hands when one
    fires. Here it is open what effects do. A command in which no effect fires does not depend on it, and commands keep the
    game if effects do (`Session.game_commandsWith`); otherwise they need not (`Session.game_not_kept`). -/

namespace TextAdventure

/-- What effects do to a session when they fire in a room. -/
abbrev Meaning := Effect → Room → Session → Session

/-- The meaning of an effect as a list of steps. -/
def Meaning.steps : Meaning := fun effect room now => { now with state := now.game.fire room effect now.state }

namespace Session

/-- Lets the player enter `next`, where effects have this meaning. The hooks that fire are those that there are on
    arrival. -/
def enterWith (meaning : Meaning) (next : Room) (now : Session) : Session :=
  (now.game.moveHooks ++ next.onEnter).foldl (fun now hook => meaning hook next now)
    { now with state := { now.state with here := next.id } }

/-- The session after a claimant has answered the command with the normal form `n`, where effects have this meaning. -/
def answerWith (meaning : Meaning) (room : Room) (n : String) (now : Session) (c : Claimant) : Session :=
  let answered := { now with state := (now.game.answer room n now.state c).1 }
  match c with
  | .exit e =>
    match now.game.world.room? e.target with
    | some next => now.enterWith meaning next
    | none => answered
  | .action a => if ∀ name ∈ a.requires, now.state.carries name = true then meaning a.effect room now else answered
  | _ => answered

/-- The session after a command, where effects have this meaning. -/
def commandWith (meaning : Meaning) (raw : String) (now : Session) : Session :=
  match now.game.world.room? now.state.here with
  | none => now.apply (.command raw)
  | some room =>
    let n := now.game.normalizer.normalize raw
    now.answerWith meaning room n (now.game.claimant room n now.state)

section Meaning
variable {now : Session} {meaning : Meaning} {raw n : String} {room next : Room} {c : Claimant}

theorem apply_command_eq (here : now.game.world.room? now.state.here = some room) (raw : String) :
    let n := now.game.normalizer.normalize raw
    now.apply (.command raw) =
      { now with state := (now.game.answer room n now.state (now.game.claimant room n now.state)).1 } := by
  intro n
  rw [apply, Game.handle_eq_answer here]

theorem answerWith_of_onlyAnswers (answers : c.OnlyAnswers now.state) :
    now.answerWith meaning room n c = { now with state := (now.game.answer room n now.state c).1 } := by
  cases c with
  | exit e => exact absurd rfl (answers.stays e)
  | action a =>
    obtain ⟨name, required, lacking⟩ := answers.lacks a rfl
    exact if_neg fun carried => by simp [carried name required] at lacking
  | _ => rfl

/-- A command that is only answered does not depend on what effects do. -/
theorem commandWith_of_onlyAnswers (here : now.game.world.room? now.state.here = some room)
    (answers : (now.game.claimant room (now.game.normalizer.normalize raw) now.state).OnlyAnswers now.state) :
    now.commandWith meaning raw = now.apply (.command raw) := by
  rw [apply_command_eq here, commandWith, here]
  exact answerWith_of_onlyAnswers answers

/-! ### Lists of steps -/

/-- Hooks that enter no room run their steps, whatever entering does. -/
theorem foldl_steps {hooks : List Effect} (quiet : ∀ hook ∈ hooks, ∀ id, .enter id ∉ hook) (enter : Room → State → State) :
    hooks.foldl (fun now hook => Meaning.steps hook next now) now =
      { now with state := hooks.foldl (fun s hook => Effect.run now.game.world enter next hook s) now.state } := by
  induction hooks generalizing now with
  | nil => rfl
  | cons hook hooks ih =>
    obtain ⟨first, others⟩ := List.forall_mem_cons.mp quiet
    -- What fires by itself may enter rooms one level deeper than a hook; without entries both are the same.
    rw [List.foldl_cons, ih others, List.foldl_cons, Effect.run_eq_of_no_enter first enter now.game.enter]
    rfl

theorem answerWith_steps (quiet : ∀ next, now.game.world.room? next.id = some next →
      ∀ hook ∈ now.game.moveHooks ++ next.onEnter, ∀ id, .enter id ∉ hook) :
    now.answerWith .steps room n c = { now with state := (now.game.answer room n now.state c).1 } := by
  cases c with
  | exit e =>
    rw [answerWith, Game.answer]
    cases target : now.game.world.room? e.target with
    | none => rfl
    | some next => exact foldl_steps (quiet next (World.room?_id_of_room? target)) _
  | action a =>
    rw [answerWith, Game.answer]
    split <;> rfl
  | _ => rfl

/-- As lists of steps effects do what they do here, as long as no hook enters a room. -/
theorem commandWith_steps (quiet : ∀ next, now.game.world.room? next.id = some next →
      ∀ hook ∈ now.game.moveHooks ++ next.onEnter, ∀ id, .enter id ∉ hook) (raw : String) :
    now.commandWith .steps raw = now.apply (.command raw) := by
  cases here : now.game.world.room? now.state.here with
  | none => rw [commandWith, here]
  | some room =>
    rw [apply_command_eq here, commandWith, here]
    exact answerWith_steps quiet

/-! ### The game -/

theorem game_foldl {α : Type} {act : Session → α → Session} (kept : ∀ now x, (act now x).game = now.game) (xs : List α) :
    (xs.foldl act now).game = now.game := by
  induction xs generalizing now with
  | nil => rfl
  | cons x xs ih => rw [List.foldl_cons, ih, kept]

theorem game_answerWith (kept : ∀ effect room now, (meaning effect room now).game = now.game) :
    (now.answerWith meaning room n c).game = now.game := by
  cases c with
  | exit e =>
    rw [answerWith]
    split
    · exact game_foldl (fun now hook => kept hook _ now) _
    · rfl
  | action a =>
    rw [answerWith]
    split
    · exact kept ..
    · rfl
  | _ => rfl

/-- A command keeps the game if effects do. -/
theorem game_commandWith (kept : ∀ effect room now, (meaning effect room now).game = now.game) (raw : String) :
    (now.commandWith meaning raw).game = now.game := by
  cases here : now.game.world.room? now.state.here with
  | none => rw [commandWith, here, apply]
  | some room =>
    rw [commandWith, here]
    exact game_answerWith kept

/-- So do commands one after the other. -/
theorem game_commandsWith (kept : ∀ effect room now, (meaning effect room now).game = now.game) (raws : List String) :
    (raws.foldl (fun now raw => now.commandWith meaning raw) now).game = now.game :=
  game_foldl (fun _ raw => game_commandWith kept raw) raws

end Meaning

/-- Where the effect of an action adds a hook, the command that triggers it changes the game. And where the world makes
    "lamp" an alias of "lantern", the lantern is what the player takes with "take lamp", though there is a lamp. -/
theorem game_not_kept :
    let lamp : Item := { name := "lamp", start := some (.room "hall") }
    let lantern : Item := { name := "lantern", start := some (.room "hall") }
    let hall : Room := { id := "hall", name := "Hall", exits := [⟨"n", "hall", false⟩],
                         actions := [.ofPhrases ["ring bell"] [.say "Dong."]] }
    let w : World := { id := "house", startRoom := "hall", rooms := .ofList _ [hall], items := [lamp, lantern],
                       aliases := [⟨"lantern", ["lamp"]⟩] }
    let session : Session := ⟨w.gameIn .english, w.initialState⟩
    let g := session.game
    let s := session.state
    let meaning : Meaning := fun _ _ now => now.apply (.onMove [.render])
    Session.start w .english = .ok session ∧ w.room? s.here = some hall ∧
      (g.moveHooks = [] ∧ (session.commandWith meaning "ring bell").game.moveHooks = [[.render]]) ∧
      (g.claimant hall (g.normalizer.normalize "take lamp") s).OnlyAnswers s ∧ lamp ∈ s.itemsIn hall.id ∧
      lamp.gettable = true ∧ ¬s.Intact (g.handle "take lamp" s).1 ∧ ¬s.Taken hall.id lamp (g.handle "take lamp" s).1 ∧
      (g.handle "take lamp" s).1.inventory.values = [lantern] ∧
      (g.handle "take lamp" s).1.out.blocks = [.text "You take the lantern."] := by
  intro lamp lantern hall w session g s meaning
  have sound : w.defects = [] := by decide +kernel
  have took : (g.handle "take lamp" s).1.inventory.values = [lantern] := by decide +kernel
  have unheld : (g.handle "take lamp" s).1.inventory.get? lamp.name ≠ some lamp := by decide +kernel
  have empty : s.inventory.values = [] := by decide +kernel
  refine ⟨by rw [start, sound], by decide +kernel, ⟨rfl, by decide +kernel⟩, by decide +kernel, by decide +kernel, rfl,
    fun intact => ?_, fun taken => unheld taken.held, took, by decide +kernel⟩
  rw [intact.inventory, empty] at took
  cases took

end Session
end TextAdventure
