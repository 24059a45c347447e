import TextAdventure.Proofs.Dispatch
import TextAdventure.Proofs.ValidWorld

/-! The calls that a command makes. Whatever a command does to the state of a session it does by calls from
    one short list, also through effects, hooks and entries within entries. Each part of a command has its
    calls listed beside what it does, and making these calls in order leads to the same state
    (`handle_eq_applyAll`). What every call keeps, every command keeps. -/

namespace TextAdventure

/-- A call that changes the state of a session. -/
inductive Call where
  | say (text : String)
  | title (text : String)
  | exits (text : String)
  | render (room : Room)
  | listInventory
  | examine (room : Room) (name : String)
  | takeOutput
  | setExitBlocked (room direction : String) (blocked : Bool)
  | goTo (room : String)
  /-- The player enters a room; what its hooks do are further calls. -/
  | arrive (room : String)
  | give (item : String)
  | consume (item : String)
  | take (room : Room) (name : String)
  | drop (room : Room) (name : String)
deriving DecidableEq, Repr

/-- The state after a call. -/
def Call.apply (w : World) (s : State) : Call → State
  | .say text => s.say text
  | .title text => { s with out := s.out.title text }
  | .exits text => { s with out := s.out.setExits text }
  | .render room => s.render room
  | .listInventory => s.listInventory
  | .examine room name => s.examine room name
  | .takeOutput => s.clearOutput
  | .setExitBlocked room direction blocked => s.setExitBlocked w room direction blocked
  | .goTo room => s.goTo w room
  | .arrive room => { s with here := room }
  | .give item => s.give w item
  | .consume item => s.consume item
  | .take room name => s.take room name
  | .drop room name => s.drop room name

/-- The state after some calls, one after the other. -/
def State.applyAll (w : World) (s : State) (calls : List Call) : State := calls.foldl (Call.apply w) s

section ApplyAll
variable {w : World} {s : State}

@[simp] theorem State.applyAll_nil : s.applyAll w [] = s := rfl

@[simp] theorem State.applyAll_cons (c : Call) (calls : List Call) :
    s.applyAll w (c :: calls) = (c.apply w s).applyAll w calls := rfl

theorem State.applyAll_append (cs ds : List Call) : s.applyAll w (cs ++ ds) = (s.applyAll w cs).applyAll w ds :=
  List.foldl_append

/-- What every call of a certain kind keeps, a series of such calls keeps. -/
theorem State.applyAll_induction {calls : List Call} {Q : Call → Prop} {P : State → Prop} (all : ∀ c ∈ calls, Q c)
    (initial : P s) (kept : ∀ s (c : Call), Q c → P s → P (c.apply w s)) : P (s.applyAll w calls) := by
  induction calls generalizing s with
  | nil => exact initial
  | cons c calls ih =>
    exact ih (fun d member => all d (List.mem_cons_of_mem c member)) (kept s c (all c List.mem_cons_self) initial)

end ApplyAll

/-! ### Calls that only show something -/

theorem State.exists_listInventory_eq (s : State) : ∃ out, s.listInventory = { s with out } := by
  have said (items : List Item) (t : State) :
      ∃ out, items.foldl (fun t item => t.say ("  " ++ item.name)) t = { t with out } := by
    induction items generalizing t with
    | nil => exact ⟨t.out, rfl⟩
    | cons item items ih => exact ih (t.say ("  " ++ item.name))
  rw [listInventory]
  split
  · exact ⟨_, rfl⟩
  · exact said _ _

theorem State.exists_examine_eq (room : Room) (name : String) (s : State) : ∃ out, s.examine room name = { s with out } := by
  rw [examine]
  split
  · exact ⟨_, rfl⟩
  · split <;> exact ⟨_, rfl⟩

/-! ### Taking and dropping -/

/-- Taking only says something, or it picks up the item of this name that lies here, and this item can be got. -/
theorem State.take_cases (room : Room) (name : String) (s : State) :
    (∃ out, s.take room name = { s with out }) ∨
      ∃ item, name ≠ "" ∧ s.itemIn? room.id name = some item ∧ item.gettable = true ∧
        s.take room name = (s.say s!"You take the {item.name}.").pickUp room.id item := by
  rw [take]
  split
  · exact .inl ⟨_, rfl⟩
  · next named =>
    split
    · exact .inl ⟨_, rfl⟩
    · next item found =>
      split
      · next gettable => exact .inr ⟨item, by simpa using named, found, gettable, rfl⟩
      · exact .inl ⟨_, rfl⟩

/-- Dropping only says something, or it puts down the carried item of this name. -/
theorem State.drop_cases (room : Room) (name : String) (s : State) :
    (∃ out, s.drop room name = { s with out }) ∨
      ∃ item, name ≠ "" ∧ s.inventory.get? name = some item ∧
        s.drop room name = (s.say s!"You drop the {item.name}.").putDown room.id item := by
  rw [drop]
  split
  · exact .inl ⟨_, rfl⟩
  · next named =>
    split
    · exact .inl ⟨_, rfl⟩
    · next item found => exact .inr ⟨item, by simpa using named, found, rfl⟩

/-! ### The calls of effects -/

/-- The calls of a step that fires in `room`. `enterCalls` are those of an entry. -/
def Step.calls (w : World) (enterCalls : Room → State → List Call) (room : Room) (s : State) : Step → List Call
  | .say text => [.say text]
  | .title text => [.title text]
  | .exits text => [.exits text]
  | .block direction => [.setExitBlocked room.id direction true]
  | .unblock direction => [.setExitBlocked room.id direction false]
  | .give item => [.give item]
  | .consume item => [.consume item]
  | .go id => [.goTo id]
  | .render => [.render room]
  | .whereabouts label => [.say (label ++ room.id ++ "|" ++ s.here)]
  | .enter id =>
    match w.room? id with
    | some next => enterCalls next s
    | none => []

/-- The calls of an effect that fires in `room`. -/
def Effect.calls (w : World) (enterCalls : Room → State → List Call) (room : Room) : Effect → State → List Call
  | [], _ => []
  | step :: rest, s =>
    let now := step.calls w enterCalls room s
    now ++ calls w enterCalls room rest (s.applyAll w now)

namespace Game

/-- The calls when the player enters `next`, of the entry itself and of all hooks. -/
def enterCallsWithin (g : Game) : (depth : Nat) → Room → State → List Call
  | 0, _, _ => []
  | depth + 1, next, s =>
    .arrive next.id :: Effect.calls g.world (g.enterCallsWithin depth) next (g.moveHooks ++ next.onEnter).flatten
      { s with here := next.id }

def enterCalls (g : Game) (next : Room) (s : State) : List Call :=
  g.enterCallsWithin (g.world.rooms.size + 1) next s

/-- The calls of the hooks when the player enters `next`, where they find the player: those of the hooks of moves, then
    those of the room. -/
def hookCalls (g : Game) (next : Room) (s : State) : List Call :=
  Effect.calls g.world (g.enterCallsWithin g.world.rooms.size) next (g.moveHooks ++ next.onEnter).flatten
    { s with here := next.id }

def fireCalls (g : Game) (room : Room) (effect : Effect) (s : State) : List Call :=
  Effect.calls g.world g.enterCalls room effect s

/-- The calls of a claimant that answers the command with the normal form `n`. -/
def answerCalls (g : Game) (room : Room) (n : String) (s : State) : Claimant → List Call
  | .exit e =>
    match g.world.room? e.target with
    | some next => g.enterCalls next s
    | none => [.say s!"You try to go {e.direction}, but something feels wrong (room not found)."]
  | .action a =>
    if ∀ name ∈ a.requires, s.carries name = true then g.fireCalls room a.effect s
    else [.say (a.missingText.getD "You don't have that.")]
  | .quit => [.say "Goodbye."]
  | .trap => [.say "You are trapped!"]
  | .inventory => [.listInventory]
  | .look => [.render room]
  | .examine => [.examine room (Text.joinSpaces (Text.words n).tail)]
  | .take => [.take room (Text.joinSpaces (Text.words n).tail)]
  | .drop => [.drop room (Text.joinSpaces (Text.words n).tail)]
  | .fallback => [.say "You can't do that."]

/-- The calls of a command as the player typed it. -/
def handleCalls (g : Game) (raw : String) (s : State) : List Call :=
  match g.world.room? s.here with
  | none => [.say s!"Error: you are in an unknown room '{s.here}'"]
  | some room =>
    g.answerCalls room (g.normalizer.normalize raw) s (g.claimant room (g.normalizer.normalize raw) s)

end Game

/-! ### The calls do what the commands do -/

section Replay
variable {w : World} {enter : Room → State → State} {enterCalls : Room → State → List Call}

theorem Step.run_eq_applyAll (h : ∀ next s, enter next s = s.applyAll w (enterCalls next s)) (room : Room)
    (s : State) (step : Step) : step.run w enter room s = s.applyAll w (step.calls w enterCalls room s) := by
  cases step with
  | enter id =>
    rw [Step.run, Step.calls]
    cases w.room? id with
    | none => rfl
    | some next => exact h next s
  | _ => rfl

theorem Effect.run_eq_applyAll (h : ∀ next s, enter next s = s.applyAll w (enterCalls next s)) (room : Room)
    (effect : Effect) (s : State) :
    Effect.run w enter room effect s = s.applyAll w (Effect.calls w enterCalls room effect s) := by
  induction effect generalizing s with
  | nil => rfl
  | cons step rest ih =>
    rw [Effect.calls, State.applyAll_append, ← ih, ← Step.run_eq_applyAll h]
    rfl

end Replay

namespace Game
variable {g : Game}

/-- Hooks that fire one after the other in a room are one effect. -/
theorem foldl_hooks (enter : Room → State → State) (room : Room) (hooks : List Effect) (s : State) :
    hooks.foldl (fun s hook => Effect.run g.world enter room hook s) s =
      Effect.run g.world enter room hooks.flatten s := by
  rw [Effect.run, List.foldl_flatten]
  rfl

theorem enterWithin_eq_applyAll (depth : Nat) (next : Room) (s : State) :
    g.enterWithin depth next s = s.applyAll g.world (g.enterCallsWithin depth next s) := by
  induction depth generalizing next s with
  | zero => rfl
  | succ depth ih =>
    rw [enterWithin, foldl_hooks, Effect.run_eq_applyAll ih, enterCallsWithin, State.applyAll_cons]
    rfl

theorem enter_eq_applyAll (next : Room) (s : State) : g.enter next s = s.applyAll g.world (g.enterCalls next s) :=
  enterWithin_eq_applyAll _ next s

/-- Who enters a room is there before any hook fires, and from there the hooks make their calls. -/
theorem enter_eq_hookCalls {id : String} {next : Room} (found : g.world.room? id = some next) (s : State) :
    g.enter next s = State.applyAll g.world { s with here := id } (g.hookCalls next s) := by
  obtain rfl := World.id_of_room? found
  exact enter_eq_applyAll next s

theorem fire_eq_applyAll (room : Room) (effect : Effect) (s : State) :
    g.fire room effect s = s.applyAll g.world (g.fireCalls room effect s) :=
  Effect.run_eq_applyAll enter_eq_applyAll room effect s

theorem answer_eq_applyAll (room : Room) (n : String) (s : State) (c : Claimant) :
    (g.answer room n s c).1 = s.applyAll g.world (g.answerCalls room n s c) := by
  cases c with
  | exit e =>
    rw [answer, answerCalls]
    cases g.world.room? e.target with
    | none => rfl
    | some next => exact enter_eq_applyAll next s
  | action a =>
    rw [answer, answerCalls]
    split
    · exact fire_eq_applyAll room a.effect s
    · rfl
  | _ => rfl

/-- A command does what its calls do. -/
theorem handle_eq_applyAll (raw : String) (s : State) :
    (g.handle raw s).1 = s.applyAll g.world (g.handleCalls raw s) := by
  cases here : g.world.room? s.here with
  | none =>
    rw [handle, handleCalls, here]
    rfl
  | some room => rw [handle_eq_answer here, answer_eq_applyAll, handleCalls, here]

end Game

/-! ### The rooms of the calls -/

/-- The rooms that a call works with are rooms of the world. What the player or an effect may get wrong
    does not count: `goTo` and `setExitBlocked` look for their rooms themselves. -/
def Call.InWorld (w : World) : Call → Prop
  | .arrive room => w.hasRoom room = true
  | .render room | .examine room _ | .take room _ | .drop room _ => w.room? room.id = some room
  | _ => True

section InWorld
variable {w : World} {enterCalls : Room → State → List Call} {room : Room} {c : Call}

theorem Step.inWorld_of_mem_calls
    (entered : ∀ next, w.room? next.id = some next → ∀ s, ∀ c ∈ enterCalls next s, c.InWorld w)
    (present : w.room? room.id = some room) {s : State} {step : Step} (member : c ∈ step.calls w enterCalls room s) :
    c.InWorld w := by
  cases step with
  | enter id =>
    rw [Step.calls] at member
    cases found : w.room? id with
    | none => simp [found] at member
    | some next =>
      simp only [found] at member
      obtain rfl := World.id_of_room? found
      exact entered next found s c member
  | render =>
    obtain rfl := List.mem_singleton.mp member
    exact present
  | _ =>
    obtain rfl := List.mem_singleton.mp member
    trivial

/-- The calls of an effect are those of its steps. -/
theorem Effect.exists_step_of_mem_calls {effect : Effect} {s : State}
    (member : c ∈ Effect.calls w enterCalls room effect s) : ∃ step ∈ effect, ∃ t, c ∈ step.calls w enterCalls room t := by
  induction effect generalizing s with
  | nil => simp [Effect.calls] at member
  | cons step rest ih =>
    rcases List.mem_append.mp member with now | later
    · exact ⟨step, List.mem_cons_self, s, now⟩
    · obtain ⟨next, belongs, t, made⟩ := ih later
      exact ⟨next, List.mem_cons_of_mem step belongs, t, made⟩

theorem Effect.inWorld_of_mem_calls
    (entered : ∀ next, w.room? next.id = some next → ∀ s, ∀ c ∈ enterCalls next s, c.InWorld w)
    (present : w.room? room.id = some room) {effect : Effect} {s : State}
    (member : c ∈ Effect.calls w enterCalls room effect s) : c.InWorld w := by
  obtain ⟨step, -, t, made⟩ := exists_step_of_mem_calls member
  exact Step.inWorld_of_mem_calls entered present made

end InWorld

namespace Game
variable {g : Game} {room : Room} {c : Call}

theorem inWorld_of_mem_enterCallsWithin (depth : Nat) (next : Room) (present : g.world.room? next.id = some next)
    (s : State) : ∀ c ∈ g.enterCallsWithin depth next s, c.InWorld g.world := by
  induction depth generalizing next s with
  | zero => simp [enterCallsWithin]
  | succ depth ih =>
    intro c member
    rcases List.mem_cons.mp member with rfl | hook
    · exact World.hasRoom_of_room? present
    · exact Effect.inWorld_of_mem_calls ih present hook

theorem inWorld_of_mem_fireCalls (present : g.world.room? room.id = some room) {effect : Effect} {s : State}
    (member : c ∈ g.fireCalls room effect s) : c.InWorld g.world :=
  Effect.inWorld_of_mem_calls (inWorld_of_mem_enterCallsWithin _) present member

theorem inWorld_of_mem_answerCalls (present : g.world.room? room.id = some room) {n : String} {s : State}
    {claimant : Claimant} (member : c ∈ g.answerCalls room n s claimant) : c.InWorld g.world := by
  cases claimant with
  | exit e =>
    rw [answerCalls] at member
    cases found : g.world.room? e.target with
    | none =>
      simp only [found, List.mem_singleton] at member
      subst member
      trivial
    | some next =>
      simp only [found] at member
      exact inWorld_of_mem_enterCallsWithin _ next (World.room?_id_of_room? found) s c member
  | action a =>
    rw [answerCalls] at member
    split at member
    · exact inWorld_of_mem_fireCalls present member
    · obtain rfl := List.mem_singleton.mp member
      trivial
  | look | examine | take | drop =>
    obtain rfl := List.mem_singleton.mp member
    exact present
  | quit | trap | inventory | fallback =>
    obtain rfl := List.mem_singleton.mp member
    trivial

theorem inWorld_of_mem_handleCalls {raw : String} {s : State} (member : c ∈ g.handleCalls raw s) :
    c.InWorld g.world := by
  rw [handleCalls] at member
  cases here : g.world.room? s.here with
  | none =>
    simp only [here, List.mem_singleton] at member
    subst member
    trivial
  | some room =>
    simp only [here] at member
    exact inWorld_of_mem_answerCalls (World.room?_id_of_room? here) member

end Game
end TextAdventure
