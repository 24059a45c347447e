import TextAdventure.Proofs.Run

/-! Which effects fire, and where. A command fires hooks of the program that plays, effects that are declared on a
    room, and effects of the actions of carried items. The first two kinds fire in a room that is entered, or for
    an action in the room of the player; so an effect that is declared on a room fires in no other
    (`Game.declared_of_mem_firings`). What a command does to exits, items and the player, apart from a walk through
    an open exit and from taking and dropping, is done by the effects that fire (`Game.origin_of_mem_handleCalls`). -/

namespace TextAdventure

def Room.effects (room : Room) : List Effect := room.actions.map Action.effect ++ room.onEnter

def Item.effects (item : Item) : List Effect := item.actions.map Action.effect

/-- An effect that fires. -/
structure Firing where
  /-- Where the effect is declared; `none` for a hook that the program has added. -/
  scope : Option Scope
  /-- The room in which the effect fires. -/
  room : Room
  effect : Effect
deriving DecidableEq, Repr

/-! ### The firings of a command -/

/-- The effects that a step fires. `entryFirings` are those of an entry. -/
def Step.firings (w : World) (entryFirings : Room → List Firing) : Step → List Firing
  | .enter id =>
    match w.room? id with
    | some next => entryFirings next
    | none => []
  | _ => []

/-- A firing with those that its steps bring about. -/
def Firing.chain (w : World) (entryFirings : Room → List Firing) (f : Firing) : List Firing :=
  f :: f.effect.flatMap (Step.firings w entryFirings)

/-- The hooks that fire in a room that is entered, those of the program before those of the room. -/
def Game.hooks (g : Game) (next : Room) : List Firing :=
  g.moveHooks.map (⟨none, next, ·⟩) ++ next.onEnter.map (⟨some (.room next.id), next, ·⟩)

namespace Game

/-- The firings when the player enters `next`, in the order in which they begin. -/
def entryFiringsWithin (g : Game) : (depth : Nat) → Room → List Firing
  | 0, _ => []
  | depth + 1, next => (g.hooks next).flatMap (Firing.chain g.world (g.entryFiringsWithin depth))

def entryFirings (g : Game) (next : Room) : List Firing := g.entryFiringsWithin (g.world.rooms.size + 1) next

/-- Where an action that answers a command in `room` is declared. -/
def actionScope (room : Room) (s : State) (a : Action) : Option Scope :=
  if a ∈ room.actions then some (.room room.id)
  else (s.inventory.values.find? fun item => a ∈ item.actions).map fun item => .item item.name

/-- The firings when a claimant answers a command. -/
def answerFirings (g : Game) (room : Room) (s : State) : Claimant → List Firing
  | .exit e =>
    match g.world.room? e.target with
    | some next => g.entryFirings next
    | none => []
  | .action a =>
    if ∀ name ∈ a.requires, s.carries name = true then
      Firing.chain g.world g.entryFirings ⟨actionScope room s a, room, a.effect⟩
    else []
  | _ => []

/-- The firings of a command as the player typed it. -/
def firings (g : Game) (raw : String) (s : State) : List Firing :=
  match g.world.room? s.here with
  | none => []
  | some room => g.answerFirings room s (g.claimant room (g.normalizer.normalize raw) s)

end Game

/-! ### Where the effects are declared -/

/-- The firing is of an effect that its scope declares. -/
inductive Firing.Declared (g : Game) (s : State) : Firing → Prop where
  | hook {room : Room} {effect : Effect} (present : g.world.room? room.id = some room)
      (member : effect ∈ g.moveHooks) : Declared g s ⟨none, room, effect⟩
  | room {room : Room} {effect : Effect} (present : g.world.room? room.id = some room)
      (member : effect ∈ room.effects) : Declared g s ⟨some (.room room.id), room, effect⟩
  | item {room : Room} {item : Item} {effect : Effect} (present : g.world.room? s.here = some room)
      (carried : item ∈ s.inventory.values) (member : effect ∈ item.effects) :
      Declared g s ⟨some (.item item.name), room, effect⟩

namespace Game
variable {g : Game} {s : State} {room : Room} {f : Firing}

theorem declared_of_mem_hooks {next : Room} (present : g.world.room? next.id = some next) (member : f ∈ g.hooks next) :
    f.Declared g s := by
  rcases List.mem_append.mp member with added | declared
  · obtain ⟨effect, hook, rfl⟩ := List.mem_map.mp added
    exact .hook present hook
  · obtain ⟨effect, hook, rfl⟩ := List.mem_map.mp declared
    exact .room present (List.mem_append_right _ hook)

/-- The firing is of a hook, in a room of the world that is entered. -/
def IsHook (g : Game) (f : Firing) : Prop := ∃ next, g.world.room? next.id = some next ∧ f ∈ g.hooks next

theorem IsHook.declared (hook : g.IsHook f) : f.Declared g s := by
  obtain ⟨next, present, member⟩ := hook
  exact declared_of_mem_hooks present member

/-- What the steps of an effect bring about fires in rooms that they let the player enter. -/
theorem exists_entered_of_mem_firings {w : World} {entryFirings : Room → List Firing} {effect : Effect}
    (member : f ∈ effect.flatMap (Step.firings w entryFirings)) :
    ∃ next, w.room? next.id = some next ∧ f ∈ entryFirings next := by
  obtain ⟨step, -, fires⟩ := List.mem_flatMap.mp member
  cases step with
  | enter id =>
    rw [Step.firings] at fires
    cases found : w.room? id with
    | none => simp [found] at fires
    | some next =>
      simp only [found] at fires
      exact ⟨next, World.room?_id_of_room? found, fires⟩
  | _ => cases fires

theorem isHook_of_mem_entryFiringsWithin (depth : Nat) (next : Room) (present : g.world.room? next.id = some next) :
    ∀ f ∈ g.entryFiringsWithin depth next, g.IsHook f := by
  induction depth generalizing next with
  | zero => simp [entryFiringsWithin]
  | succ depth ih =>
    intro f member
    obtain ⟨hook, hooked, chained⟩ := List.mem_flatMap.mp member
    rcases List.mem_cons.mp chained with rfl | later
    · exact ⟨next, present, hooked⟩
    · obtain ⟨inner, entered, fires⟩ := exists_entered_of_mem_firings later
      exact ih inner entered f fires

/-- The effect that a claimant fires itself: that of an action, if all that it requires is carried. -/
def fired? (room : Room) (s : State) : Claimant → Option Firing
  | .action a =>
    if ∀ name ∈ a.requires, s.carries name = true then some ⟨actionScope room s a, room, a.effect⟩ else none
  | _ => none

/-- All that fires besides is a hook; and where no exit is taken and no action fires its effect, nothing does. -/
theorem exists_answerFirings_eq (g : Game) (room : Room) (s : State) (c : Claimant) :
    ∃ hooks, g.answerFirings room s c = (fired? room s c).toList ++ hooks ∧ (∀ f ∈ hooks, g.IsHook f) ∧
      ((∀ e, c ≠ .exit e) → fired? room s c = none → hooks = []) := by
  cases c with
  | exit e =>
    rw [answerFirings]
    cases found : g.world.room? e.target with
    | none => exact ⟨[], rfl, by simp, fun _ _ => rfl⟩
    | some next =>
      exact ⟨g.entryFirings next, rfl, isHook_of_mem_entryFiringsWithin _ next (World.room?_id_of_room? found),
        fun stays => absurd rfl (stays e)⟩
  | action a =>
    rw [answerFirings, fired?]
    split
    · refine ⟨_, rfl, fun f member => ?_, nofun⟩
      obtain ⟨next, entered, fires⟩ := exists_entered_of_mem_firings member
      exact isHook_of_mem_entryFiringsWithin _ next entered f fires
    · exact ⟨[], rfl, by simp, fun _ _ => rfl⟩
  | _ => exact ⟨[], rfl, by simp, fun _ _ => rfl⟩

/-- An action that may answer a command is offered by the room or by a carried item. -/
theorem mem_actions_of_mem_candidates {a : Action} (member : .action a ∈ candidates room s) :
    a ∈ room.actions ∨ ∃ item ∈ s.inventory.values, a ∈ item.actions := by
  unfold candidates at member
  split at member
  · simp at member
  · simpa [builtIns] using member

theorem declared_action {a : Action} (here : g.world.room? s.here = some room)
    (offered : a ∈ room.actions ∨ ∃ item ∈ s.inventory.values, a ∈ item.actions) :
    Firing.Declared g s ⟨actionScope room s a, room, a.effect⟩ := by
  -- The same action may be offered twice; the room's own offer counts first.
  by_cases own : a ∈ room.actions
  · rw [actionScope, if_pos own]
    exact .room (World.room?_id_of_room? here) (List.mem_append_left _ (List.mem_map_of_mem own))
  · obtain ⟨item, carried, offers⟩ := offered.resolve_left own
    rw [actionScope, if_neg own]
    cases found : s.inventory.values.find? fun item => a ∈ item.actions with
    | none => simpa [offers] using List.find?_eq_none.mp found item carried
    | some first =>
      have offers : a ∈ first.actions := by simpa using List.find?_some found
      exact .item here (List.mem_of_find?_eq_some found) (List.mem_map_of_mem offers)

/-- Each effect that a command fires is a hook of the program, an effect of the room in which it fires, or one of
    a carried item that fires in the room of the player. -/
theorem declared_of_mem_firings {raw : String} (member : f ∈ g.firings raw s) : f.Declared g s := by
  rw [firings] at member
  cases here : g.world.room? s.here with
  | none => simp [here] at member
  | some room =>
    simp only [here] at member
    have candidate := claimant_mem_candidates g room (g.normalizer.normalize raw) s
    generalize g.claimant room (g.normalizer.normalize raw) s = c at member candidate
    obtain ⟨hooks, split, hook, -⟩ := exists_answerFirings_eq g room s c
    rw [split] at member
    rcases List.mem_append.mp member with own | hooked
    · cases c with
      | action a =>
        rw [fired?] at own
        split at own
        · obtain rfl := List.mem_singleton.mp own
          exact declared_action here (mem_actions_of_mem_candidates candidate)
        · cases own
      | _ => cases own
    · exact (hook f hooked).declared

end Game

/-! ### Who makes a call -/

/-- The call that a step makes when it fires in `room`, unless it only shows something. -/
def Step.call? (room : Room) : Step → Option Call
  | .block direction => some (.setExitBlocked room.id direction true)
  | .unblock direction => some (.setExitBlocked room.id direction false)
  | .give item => some (.give item)
  | .consume item => some (.consume item)
  | .go id => some (.goTo id)
  | .enter id => some (.arrive id)
  | .say _ | .title _ | .exits _ | .render | .whereabouts _ => none

/-- The call only shows something, or it takes or drops an item for the player. -/
def Call.isReply : Call → Bool
  | .setExitBlocked .. | .goTo _ | .arrive _ | .give _ | .consume _ => false
  | _ => true

/-- A step of the firing makes the call. -/
def Firing.Makes (f : Firing) (c : Call) : Prop := ∃ step ∈ f.effect, step.call? f.room = some c

/-- Why a command makes a call. -/
inductive Call.Origin (g : Game) (raw : String) (s : State) : Call → Prop where
  | reply {c : Call} (reply : c.isReply = true) : Origin g raw s c
  /-- The player walks through an open exit. -/
  | walk {room : Room} {e : Exit} (here : g.world.room? s.here = some room) (member : e ∈ room.exits)
      (isOpen : s.exitBlocked room.id e = false) : Origin g raw s (.arrive e.target)
  | effect {f : Firing} {c : Call} (fires : f ∈ g.firings raw s) (makes : f.Makes c) : Origin g raw s c

section Calls
variable {w : World} {enterCalls : Room → State → List Call} {entryFirings : Room → List Firing} {c : Call}

/-- The entry of a room is a call of its own; all others are replies or are made by effects that fire. -/
def EntryMade (entryFirings : Room → List Firing) (next : Room) (c : Call) : Prop :=
  c = .arrive next.id ∨ c.isReply = true ∨ ∃ f ∈ entryFirings next, f.Makes c

theorem made_of_mem_stepCalls (entered : ∀ next s, ∀ c ∈ enterCalls next s, EntryMade entryFirings next c) (first : Firing)
    {step : Step} (belongs : step ∈ first.effect) {s : State} (member : c ∈ step.calls w enterCalls first.room s) :
    c.isReply = true ∨ ∃ f ∈ first.chain w entryFirings, f.Makes c := by
  have own (made : step.call? first.room = some c) : ∃ f ∈ first.chain w entryFirings, f.Makes c :=
    ⟨first, List.mem_cons_self, step, belongs, made⟩
  cases step with
  | enter id =>
    rw [Step.calls] at member
    cases found : w.room? id with
    | none => simp [found] at member
    | some next =>
      simp only [found] at member
      obtain rfl := World.id_of_room? found
      rcases entered next s c member with rfl | reply | ⟨f, fires, makes⟩
      · exact .inr (own rfl)
      · exact .inl reply
      · refine .inr ⟨f, List.mem_cons_of_mem first (List.mem_flatMap.mpr ⟨_, belongs, ?_⟩), makes⟩
        simpa only [Step.firings, found] using fires
  | block | unblock | give | consume | go =>
    obtain rfl := List.mem_singleton.mp member
    exact .inr (own rfl)
  | say | title | exits | render | whereabouts =>
    obtain rfl := List.mem_singleton.mp member
    exact .inl rfl

end Calls

namespace Game
variable {g : Game} {s : State} {c : Call}

theorem effects_hooks (next : Room) : (g.hooks next).map Firing.effect = g.moveHooks ++ next.onEnter := by
  simp [hooks, Function.comp_def]

theorem room_of_mem_hooks {next : Room} {f : Firing} (member : f ∈ g.hooks next) : f.room = next := by
  rcases List.mem_append.mp member with added | declared
  · obtain ⟨-, -, rfl⟩ := List.mem_map.mp added
    rfl
  · obtain ⟨-, -, rfl⟩ := List.mem_map.mp declared
    rfl

theorem entryMade_of_mem_enterCallsWithin (depth : Nat) (next : Room) (s : State) :
    ∀ c ∈ g.enterCallsWithin depth next s, EntryMade (g.entryFiringsWithin depth) next c := by
  induction depth generalizing next s with
  | zero => simp [enterCallsWithin]
  | succ depth ih =>
    intro c member
    rcases List.mem_cons.mp member with rfl | later
    · exact .inl rfl
    · obtain ⟨step, belongs, t, made⟩ := Effect.exists_step_of_mem_calls later
      -- The step is one of some hook, and the hook is what fires.
      obtain ⟨effect, hooked, belongs⟩ := List.mem_flatten.mp belongs
      rw [← effects_hooks] at hooked
      obtain ⟨hook, fires, rfl⟩ := List.mem_map.mp hooked
      rw [← room_of_mem_hooks fires] at made
      rcases made_of_mem_stepCalls ih hook belongs made with reply | ⟨f, chained, makes⟩
      · exact .inr (.inl reply)
      · exact .inr (.inr ⟨f, List.mem_flatMap.mpr ⟨hook, fires, chained⟩, makes⟩)

/-- Each call of a command is a reply, the walk through an open exit, or made by an effect that fires. -/
theorem origin_of_mem_handleCalls {raw : String} (member : c ∈ g.handleCalls raw s) : Call.Origin g raw s c := by
  rw [handleCalls] at member
  cases here : g.world.room? s.here with
  | none =>
    simp only [here, List.mem_singleton] at member
    subst member
    exact .reply rfl
  | some room =>
    simp only [here] at member
    have candidate := claimant_mem_candidates g room (g.normalizer.normalize raw) s
    have claims := claims_claimant g room (g.normalizer.normalize raw) s
    have fired : g.firings raw s = g.answerFirings room s (g.claimant room (g.normalizer.normalize raw) s) := by
      rw [firings, here]
    generalize g.claimant room (g.normalizer.normalize raw) s = claimant at member candidate claims fired
    cases claimant with
    | exit e =>
      rw [answerCalls] at member
      rw [answerFirings] at fired
      cases found : g.world.room? e.target with
      | none =>
        simp only [found, List.mem_singleton] at member
        subst member
        exact .reply rfl
      | some next =>
        simp only [found] at member fired
        rcases entryMade_of_mem_enterCallsWithin _ next s c member with rfl | reply | ⟨f, fires, makes⟩
        · rw [World.id_of_room? found]
          exact .walk here (mem_exits_of_mem_candidates candidate) claims.1
        · exact .reply reply
        · exact .effect (fired ▸ fires) makes
    | action a =>
      rw [answerCalls] at member
      rw [answerFirings] at fired
      split at member
      · next carried =>
        obtain ⟨step, belongs, t, made⟩ := Effect.exists_step_of_mem_calls member
        rw [if_pos carried] at fired
        rcases made_of_mem_stepCalls (entryMade_of_mem_enterCallsWithin _) ⟨actionScope room s a, room, a.effect⟩
          belongs made with reply | ⟨f, fires, makes⟩
        · exact .reply reply
        · exact .effect (fired ▸ fires) makes
      · obtain rfl := List.mem_singleton.mp member
        exact .reply rfl
    | _ =>
      obtain rfl := List.mem_singleton.mp member
      exact .reply rfl

end Game
end TextAdventure
