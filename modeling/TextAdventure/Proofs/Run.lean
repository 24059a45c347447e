import TextAdventure.Proofs.Calls

/-! Runs. The program that plays a session asks it for operations, in any order and as often as it likes: it
    passes on commands, it adds hooks, and its own logic gives and takes items, opens and blocks exits and
    moves the player. Every operation is a series of calls, so an invariant of calls is one of runs. -/

namespace TextAdventure

/-- What a session may be asked for. -/
inductive Operation where
  | command (raw : String)
  /-- A command whose output is taken. -/
  | step (raw : String)
  | opening
  | takeOutput
  | onMove (hook : Effect)
  | give (item : String)
  | consume (item : String)
  | setExitBlocked (room direction : String) (blocked : Bool)
  | goTo (room : String)
deriving DecidableEq, Repr

/-- The calls of the opening. -/
def Game.openingCalls (g : Game) (s : State) : List Call :=
  let shown := match g.world.room? s.here with
    | some room => [.render room]
    | none => []
  .title g.world.name :: .say g.world.prologue :: (shown ++ [.takeOutput])

theorem Game.opening_eq_applyAll (g : Game) (s : State) :
    (g.opening s).1 = s.applyAll g.world (g.openingCalls s) := by
  rw [opening, openingCalls]
  cases g.world.room? s.here <;> rfl

theorem Game.eq_of_mem_openingCalls {g : Game} {s : State} {c : Call} (member : c ∈ g.openingCalls s) :
    c = .title g.world.name ∨ c = .say g.world.prologue ∨ (∃ room, g.world.room? s.here = some room ∧ c = .render room) ∨
      c = .takeOutput := by
  rw [openingCalls] at member
  cases here : g.world.room? s.here with
  | none => simpa [here] using member
  | some room => simpa [here] using member

namespace Session

/-- The session after an operation. -/
def apply (session : Session) : Operation → Session
  | .command raw => { session with state := (session.game.handle raw session.state).1 }
  | .step raw => { session with state := (session.game.step raw session.state).1 }
  | .opening => { session with state := (session.game.opening session.state).1 }
  | .takeOutput => { session with state := session.state.clearOutput }
  | .onMove hook => { session with game := session.game.onMove hook }
  | .give item => { session with state := session.state.give session.game.world item }
  | .consume item => { session with state := session.state.consume item }
  | .setExitBlocked room direction blocked =>
    { session with state := session.state.setExitBlocked session.game.world room direction blocked }
  | .goTo room => { session with state := session.state.goTo session.game.world room }

/-- The calls of an operation. -/
def calls (session : Session) : Operation → List Call
  | .command raw => session.game.handleCalls raw session.state
  | .step raw => session.game.handleCalls raw session.state ++ [.takeOutput]
  | .opening => session.game.openingCalls session.state
  | .takeOutput => [.takeOutput]
  | .onMove _ => []
  | .give item => [.give item]
  | .consume item => [.consume item]
  | .setExitBlocked room direction blocked => [.setExitBlocked room direction blocked]
  | .goTo room => [.goTo room]

/-- The session after some operations, one after the other. -/
def run (session : Session) (operations : List Operation) : Session := operations.foldl apply session

section Run
variable {session : Session} {op : Operation} {ops : List Operation}

@[simp] theorem run_nil : session.run [] = session := rfl

@[simp] theorem run_cons : session.run (op :: ops) = (session.apply op).run ops := rfl

/-- No operation changes the world. -/
@[simp] theorem world_apply : (session.apply op).game.world = session.game.world := by cases op <;> rfl

@[simp] theorem world_run : (session.run ops).game.world = session.game.world := by
  induction ops generalizing session with
  | nil => rfl
  | cons op ops ih => rw [run_cons, ih, world_apply]

/-- Operations add hooks to the game and leave the rest of it alone. -/
theorem game_run : (session.run ops).game = { session.game with moveHooks := (session.run ops).game.moveHooks } := by
  induction ops generalizing session with
  | nil => rfl
  | cons op ops ih =>
    rw [run_cons, ih]
    cases op <;> rfl

/-- An operation does what its calls do. -/
theorem state_apply : (session.apply op).state = session.state.applyAll session.game.world (session.calls op) := by
  cases op with
  | command raw => exact session.game.handle_eq_applyAll raw session.state
  | step raw =>
    rw [calls, State.applyAll_append, ← Game.handle_eq_applyAll]
    rfl
  | opening => exact session.game.opening_eq_applyAll session.state
  | _ => rfl

/-- The calls of some operations, one after the other. -/
def log (session : Session) : List Operation → List Call
  | [] => []
  | op :: ops => session.calls op ++ (session.apply op).log ops

/-- A run does what its calls do. -/
theorem state_run : (session.run ops).state = session.state.applyAll session.game.world (session.log ops) := by
  induction ops generalizing session with
  | nil => rfl
  | cons op ops ih => rw [run_cons, ih, state_apply, world_apply, log, State.applyAll_append]

theorem inWorld_of_mem_calls {c : Call} (member : c ∈ session.calls op) : c.InWorld session.game.world := by
  cases op with
  | command raw => exact Game.inWorld_of_mem_handleCalls member
  | step raw =>
    rcases List.mem_append.mp member with handled | taken
    · exact Game.inWorld_of_mem_handleCalls handled
    · obtain rfl := List.mem_singleton.mp taken
      trivial
  | opening =>
    rcases Game.eq_of_mem_openingCalls member with rfl | rfl | ⟨room, here, rfl⟩ | rfl
    · trivial
    · trivial
    · exact World.room?_id_of_room? here
    · trivial
  | onMove hook => cases member
  | takeOutput | give | consume | setExitBlocked | goTo =>
    obtain rfl := List.mem_singleton.mp member
    trivial

theorem inWorld_of_mem_log {c : Call} (member : c ∈ session.log ops) : c.InWorld session.game.world := by
  induction ops generalizing session with
  | nil => cases member
  | cons op ops ih =>
    rcases List.mem_append.mp member with now | later
    · exact inWorld_of_mem_calls now
    · have world : (session.apply op).game.world = session.game.world := world_apply
      exact world ▸ ih later

/-- What holds at first and what every call within the world keeps holds after every run. -/
theorem run_induction {w : World} {P : State → Prop} (world : session.game.world = w) (initial : P session.state)
    (kept : ∀ s (c : Call), c.InWorld w → P s → P (c.apply w s)) : P (session.run ops).state := by
  subst world
  induction ops generalizing session with
  | nil => exact initial
  | cons op ops ih =>
    have applied : P (session.apply op).state := by
      rw [state_apply]
      exact State.applyAll_induction (fun c member => inWorld_of_mem_calls member) initial kept
    exact ih applied (by simpa only [world_apply] using kept)

end Run

/-- The session comes through this state, after some operations or within one of them. -/
def Reaches (session : Session) (s : State) : Prop :=
  ∃ ops calls, calls <+: session.log ops ∧ s = session.state.applyAll session.game.world calls

theorem reaches_run (session : Session) (ops : List Operation) : session.Reaches (session.run ops).state :=
  ⟨ops, session.log ops, List.prefix_refl _, state_run⟩

end Session
end TextAdventure
