import TextAdventure.Proofs.RoomOrder

/-! The order of tables. Rooms, what lies in them, blocked exits, aliases and junk words are kept in tables that hold
    things in no particular order. Sessions whose tables hold the same are alike: they give the same replies and stay
    alike, whatever they are asked for (`Session.Alike.apply`). So it is never seen in which order a table is gone
    through when a world is validated, when a session is set up, or while it runs; nor, then, in which order the rooms
    of a world were declared (`World.rooms_in_any_order`). -/

namespace TextAdventure
open Text

/-! ### Tables that hold the same -/

/-- Two states in which the player stands in the same place with the same things, sees the same, and finds the same
    items and the same blocked exits in each room. -/
structure State.Alike (s t : State) : Prop where
  here : s.here = t.here
  inventory : s.inventory = t.inventory
  out : s.out = t.out
  items : ∀ room, s.itemsIn room = t.itemsIn room
  exits : ∀ room exit, s.exitBlocked room exit = t.exitBlocked room exit

/-- Two normalizers with the same junk words and aliases. -/
structure Normalizer.Alike (n m : Normalizer) : Prop where
  junk : ∀ token, n.isJunk token = m.isJunk token
  aliases : ∀ word, n.aliases.get? word = m.aliases.get? word

/-- Two games of one world that differ at most in the order of their junk words and aliases. -/
structure Game.Alike (g h : Game) : Prop where
  world : g.world = h.world
  normalizer : g.normalizer.Alike h.normalizer
  directions : g.directions = h.directions
  moveHooks : g.moveHooks = h.moveHooks

/-- Two sessions whose tables hold the same. -/
structure Session.Alike (a b : Session) : Prop where
  game : a.game.Alike b.game
  state : a.state.Alike b.state

theorem State.Alike.refl (s : State) : s.Alike s := ⟨rfl, rfl, rfl, fun _ => rfl, fun _ _ => rfl⟩

theorem State.Alike.symm {s t : State} (alike : s.Alike t) : t.Alike s where
  here := alike.here.symm
  inventory := alike.inventory.symm
  out := alike.out.symm
  items room := (alike.items room).symm
  exits room exit := (alike.exits room exit).symm

theorem State.Alike.trans {s t u : State} (first : s.Alike t) (second : t.Alike u) : s.Alike u where
  here := first.here.trans second.here
  inventory := first.inventory.trans second.inventory
  out := first.out.trans second.out
  items room := (first.items room).trans (second.items room)
  exits room exit := (first.exits room exit).trans (second.exits room exit)

theorem Game.Alike.refl (g : Game) : g.Alike g := ⟨rfl, ⟨fun _ => rfl, fun _ => rfl⟩, rfl, rfl⟩

theorem Game.Alike.symm {g h : Game} (alike : g.Alike h) : h.Alike g where
  world := alike.world.symm
  normalizer := ⟨fun token => (alike.normalizer.junk token).symm, fun word => (alike.normalizer.aliases word).symm⟩
  directions := alike.directions.symm
  moveHooks := alike.moveHooks.symm

theorem Game.Alike.trans {g h k : Game} (first : g.Alike h) (second : h.Alike k) : g.Alike k where
  world := first.world.trans second.world
  normalizer := {
    junk token := (first.normalizer.junk token).trans (second.normalizer.junk token)
    aliases word := (first.normalizer.aliases word).trans (second.normalizer.aliases word) }
  directions := first.directions.trans second.directions
  moveHooks := first.moveHooks.trans second.moveHooks

theorem Session.Alike.refl (a : Session) : a.Alike a := ⟨.refl a.game, .refl a.state⟩

theorem Session.Alike.symm {a b : Session} (alike : a.Alike b) : b.Alike a := ⟨alike.game.symm, alike.state.symm⟩

theorem Session.Alike.trans {a b c : Session} (first : a.Alike b) (second : b.Alike c) : a.Alike c :=
  ⟨first.game.trans second.game, first.state.trans second.state⟩

theorem Normalizer.Alike.normalize {n m : Normalizer} (alike : n.Alike m) (raw : String) :
    n.normalize raw = m.normalize raw := by
  have dropped (s : String) : n.dropJunk s = m.dropJunk s := by simp only [dropJunk, alike.junk]
  have resolved (s : String) : n.resolveAliases s = m.resolveAliases s := by
    have words : n.aliases.resolve = m.aliases.resolve := by
      funext word
      rw [AliasTable.resolve, alike.aliases, ← AliasTable.resolve]
    rw [resolveAliases, words, ← resolveAliases]
  rw [Normalizer.normalize, dropped, resolved, ← Normalizer.normalize]

/-! ### What a call does to alike states -/

namespace State.Alike
variable {s t : State} (alike : s.Alike t)

include alike

/-- Alike states that show the same instead. -/
theorem withOut (out : Output) : State.Alike { s with out } { t with out } :=
  ⟨alike.here, alike.inventory, rfl, alike.items, alike.exits⟩

theorem say (text : String) : (s.say text).Alike (t.say text) := by
  rw [State.say, State.say, ← alike.out]
  exact alike.withOut _

theorem itemIn? (room name : String) : s.itemIn? room name = t.itemIn? room name := by
  rw [State.itemIn?, alike.items, ← State.itemIn?]

theorem openExits (room : Room) : s.openExits room = t.openExits room := by
  simp only [State.openExits, alike.exits]

theorem carries (name : String) : s.carries name = t.carries name := by
  rw [State.carries, alike.inventory, ← State.carries]

theorem render (room : Room) : (s.render room).Alike (t.render room) := by
  have text : s.roomText room = t.roomText room := by rw [State.roomText, alike.items, ← State.roomText]
  have line : s.exitsLine room = t.exitsLine room := by
    rw [State.exitsLine, openDirections, alike.openExits, ← openDirections, ← State.exitsLine]
  rw [State.render, State.render, ← alike.out, ← text, ← line]
  exact alike.withOut _

theorem listInventory : s.listInventory.Alike t.listInventory := by
  rw [State.listInventory, State.listInventory, ← alike.inventory]
  split
  · exact alike.say _
  · exact List.foldl_rel (alike.say _) fun item _ _ _ shown => shown.say _

theorem examine (room : Room) (name : String) : (s.examine room name).Alike (t.examine room name) := by
  rw [State.examine, State.examine, ← alike.inventory, ← alike.itemIn?]
  split
  · exact alike.say _
  · split <;> exact alike.say _

theorem pickUp (room : String) (item : Item) : (s.pickUp room item).Alike (t.pickUp room item) where
  here := alike.here
  inventory := congrArg (·.insert item) alike.inventory
  out := alike.out
  items other := by rw [itemsIn_pickUp, itemsIn_pickUp, alike.items]
  exits := alike.exits

theorem putDown (room : String) (item : Item) : (s.putDown room item).Alike (t.putDown room item) where
  here := alike.here
  inventory := congrArg (·.erase item.name) alike.inventory
  out := alike.out
  items other := by rw [itemsIn_putDown, itemsIn_putDown, alike.items]
  exits := alike.exits

theorem take (room : Room) (name : String) : (s.take room name).Alike (t.take room name) := by
  rw [State.take, State.take, ← alike.itemIn?]
  split
  · exact alike.say _
  · split
    · exact alike.say _
    · split
      · exact (alike.say _).pickUp _ _
      · exact alike.say _

theorem drop (room : Room) (name : String) : (s.drop room name).Alike (t.drop room name) := by
  rw [State.drop, State.drop, ← alike.inventory]
  split
  · exact alike.say _
  · split
    · exact alike.say _
    · exact (alike.say _).putDown _ _

theorem give (w : World) (name : String) : (s.give w name).Alike (t.give w name) := by
  have items (room : String) : (s.give w name).itemsIn room = (t.give w name).itemsIn room := by
    rw [itemsIn_give, itemsIn_give, alike.items]
  cases found : w.item? name with
  | none => simpa only [State.give, found] using alike
  | some item =>
    simp only [State.give, found] at items ⊢
    exact ⟨alike.here, congrArg (·.insert item) alike.inventory, alike.out, items, alike.exits⟩

theorem setExitBlocked (w : World) (room direction : String) (blocked : Bool) :
    (s.setExitBlocked w room direction blocked).Alike (t.setExitBlocked w room direction blocked) := by
  have exits (other : String) (exit : Exit) : (s.setExitBlocked w room direction blocked).exitBlocked other exit =
      (t.setExitBlocked w room direction blocked).exitBlocked other exit := by
    rw [exitBlocked_setExitBlocked, exitBlocked_setExitBlocked, alike.exits]
  cases found : (w.room? room).bind (·.exit? direction) with
  | none => simpa only [State.setExitBlocked, found] using alike
  | some exit =>
    simp only [State.setExitBlocked, found] at exits ⊢
    exact ⟨alike.here, alike.inventory, alike.out, alike.items, exits⟩

theorem apply (w : World) (c : Call) : (c.apply w s).Alike (c.apply w t) := by
  cases c with
  | say text => exact alike.say text
  | title text =>
    rw [Call.apply, Call.apply, ← alike.out]
    exact alike.withOut _
  | exits text =>
    rw [Call.apply, Call.apply, ← alike.out]
    exact alike.withOut _
  | render room => exact alike.render room
  | listInventory => exact alike.listInventory
  | examine room name => exact alike.examine room name
  | takeOutput => exact alike.withOut {}
  | setExitBlocked room direction blocked => exact alike.setExitBlocked w room direction blocked
  | goTo room =>
    rw [Call.apply, Call.apply, State.goTo, State.goTo]
    split
    · exact ⟨rfl, alike.inventory, alike.out, alike.items, alike.exits⟩
    · exact alike
  | arrive room => exact ⟨rfl, alike.inventory, alike.out, alike.items, alike.exits⟩
  | give item => exact alike.give w item
  | consume item => exact ⟨alike.here, congrArg (·.erase item) alike.inventory, alike.out, alike.items, alike.exits⟩
  | take room name => exact alike.take room name
  | drop room name => exact alike.drop room name

theorem applyAll (w : World) (calls : List Call) : (s.applyAll w calls).Alike (t.applyAll w calls) :=
  List.foldl_rel alike fun c _ _ _ alike => alike.apply w c

end State.Alike

/-! ### Alike sessions make the same calls -/

section Calls
variable {w : World} {enterCalls enterCalls' : Room → State → List Call} {s t : State}

theorem Step.calls_eq_of_alike (entries : ∀ next s t, s.Alike t → enterCalls next s = enterCalls' next t)
    (alike : s.Alike t) (room : Room) (step : Step) :
    step.calls w enterCalls room s = step.calls w enterCalls' room t := by
  cases step with
  | whereabouts label => rw [Step.calls, Step.calls, alike.here]
  | enter id =>
    rw [Step.calls, Step.calls]
    cases w.room? id with
    | none => rfl
    | some next => exact entries next s t alike
  | _ => rfl

theorem Effect.calls_eq_of_alike (entries : ∀ next s t, s.Alike t → enterCalls next s = enterCalls' next t)
    (alike : s.Alike t) (room : Room) (effect : Effect) :
    Effect.calls w enterCalls room effect s = Effect.calls w enterCalls' room effect t := by
  induction effect generalizing s t with
  | nil => rfl
  | cons step rest ih =>
    have now := Step.calls_eq_of_alike (w := w) entries alike room step
    rw [Effect.calls, Effect.calls, now, ih (alike.applyAll w _)]

end Calls

/-- Only the claimant that leaves the game lets the player leave it. -/
theorem Game.answer_quit (g : Game) (room : Room) (n : String) (s : State) (c : Claimant) :
    (g.answer room n s c).2 = decide (c = .quit) := by
  cases c with
  | exit e =>
    rw [answer]
    split <;> rfl
  | action a =>
    rw [answer]
    split <;> rfl
  | _ => rfl

namespace Game.Alike
variable {g h : Game} {s t : State} (games : g.Alike h)

include games

theorem onMove (hook : Effect) : (g.onMove hook).Alike (h.onMove hook) :=
  ⟨games.world, games.normalizer, games.directions, congrArg (· ++ [hook]) games.moveHooks⟩

theorem enterCallsWithin (depth : Nat) (next : Room) (alike : s.Alike t) :
    g.enterCallsWithin depth next s = h.enterCallsWithin depth next t := by
  induction depth generalizing next s t with
  | zero => rfl
  | succ depth ih =>
    have arrived : State.Alike { s with here := next.id } { t with here := next.id } :=
      alike.apply g.world (.arrive next.id)
    rw [Game.enterCallsWithin, Game.enterCallsWithin, ← games.world, ← games.moveHooks]
    exact congrArg _ (Effect.calls_eq_of_alike (fun next _ _ alike => ih next alike) arrived next _)

theorem enterCalls (alike : s.Alike t) (next : Room) : g.enterCalls next s = h.enterCalls next t := by
  rw [Game.enterCalls, Game.enterCalls, ← games.world]
  exact games.enterCallsWithin _ next alike

theorem fireCalls (alike : s.Alike t) (room : Room) (effect : Effect) :
    g.fireCalls room effect s = h.fireCalls room effect t := by
  rw [Game.fireCalls, Game.fireCalls, ← games.world]
  exact Effect.calls_eq_of_alike (fun next _ _ alike => games.enterCalls alike next) alike room effect

theorem claims_iff (alike : s.Alike t) (room : Room) (n : String) (c : Claimant) :
    g.Claims room n s c ↔ h.Claims room n t c := by
  cases c with
  | exit e => rw [Claims, Claims, alike.exits, games.directions]
  | action a => simp only [Claims, games.normalizer.normalize]
  | _ => rfl

/-- The same candidate answers. -/
theorem claimant (alike : s.Alike t) (room : Room) (n : String) : g.claimant room n s = h.claimant room n t := by
  have candidates : candidates room s = candidates room t := by
    rw [Game.candidates, alike.inventory, ← Game.candidates]
  have claims : (g.Claims room n s · : Claimant → Bool) = (h.Claims room n t ·) := by
    funext c
    exact decide_eq_decide.mpr (games.claims_iff alike room n c)
  rw [Game.claimant, Game.claimant, first?, first?, candidates, claims]

theorem answerCalls (alike : s.Alike t) (room : Room) (n : String) (c : Claimant) :
    g.answerCalls room n s c = h.answerCalls room n t c := by
  cases c with
  | exit e =>
    rw [Game.answerCalls, Game.answerCalls, ← games.world]
    cases g.world.room? e.target with
    | none => rfl
    | some next => exact games.enterCalls alike next
  | action a => simp only [Game.answerCalls, alike.carries, games.fireCalls alike]
  | _ => rfl

theorem handleCalls (alike : s.Alike t) (raw : String) : g.handleCalls raw s = h.handleCalls raw t := by
  rw [Game.handleCalls, Game.handleCalls, ← games.world, ← alike.here, games.normalizer.normalize]
  cases g.world.room? s.here with
  | none => rfl
  | some room =>
    dsimp only
    rw [games.claimant alike, games.answerCalls alike]

theorem handle (alike : s.Alike t) (raw : String) : (g.handle raw s).1.Alike (h.handle raw t).1 := by
  rw [handle_eq_applyAll, handle_eq_applyAll, ← games.world, games.handleCalls alike]
  exact alike.applyAll _ _

/-- The same commands leave the game. -/
theorem handle_quit (alike : s.Alike t) (raw : String) : (g.handle raw s).2 = (h.handle raw t).2 := by
  have there : h.world.room? t.here = g.world.room? s.here := by rw [games.world, alike.here]
  cases here : g.world.room? s.here with
  | none => simp only [Game.handle, here, there]
  | some room =>
    rw [handle_eq_answer here, handle_eq_answer (there.trans here), games.normalizer.normalize, games.claimant alike,
      answer_quit, answer_quit]

theorem opening (alike : s.Alike t) : (g.opening s).2 = (h.opening t).2 := by
  have titled := alike.apply g.world (.title g.world.name)
  have introduced := titled.say g.world.prologue
  rw [Game.opening, Game.opening, ← games.world, ← alike.here]
  cases g.world.room? s.here with
  | none => exact introduced.out
  | some room => exact (introduced.render room).out

end Game.Alike

/-! ### Alike sessions give the same replies -/

namespace Session

/-- What an operation gives back: the output that it takes, and whether the player leaves the game. -/
def reply (session : Session) : Operation → Output × Bool
  | .command raw => ({}, (session.game.handle raw session.state).2)
  | .step raw => (session.game.step raw session.state).2
  | .opening => ((session.game.opening session.state).2, false)
  | .takeOutput => (session.state.out, false)
  | _ => ({}, false)

/-- What some operations give back, one after the other. -/
def replies (session : Session) : List Operation → List (Output × Bool)
  | [] => []
  | op :: ops => session.reply op :: (session.apply op).replies ops

/-- A course of the session in which its tables may be put into another order at any time: what the operations give
    back, and the session at the end. -/
inductive Plays : Session → List Operation → List (Output × Bool) → Session → Prop where
  | done {a b : Session} (shuffled : a.Alike b) : Plays a [] [] b
  | next {a b c : Session} {op : Operation} {ops : List Operation} {replies : List (Output × Bool)}
      (shuffled : a.Alike b) (rest : Plays (b.apply op) ops replies c) : Plays a (op :: ops) (b.reply op :: replies) c

namespace Alike
variable {a b : Session} (alike : a.Alike b)

include alike

theorem calls (op : Operation) : a.calls op = b.calls op := by
  cases op with
  | command raw => exact alike.game.handleCalls alike.state raw
  | step raw => exact congrArg (· ++ [.takeOutput]) (alike.game.handleCalls alike.state raw)
  | opening =>
    rw [Session.calls, Game.openingCalls, alike.game.world, alike.state.here]
    rfl
  | _ => rfl

theorem apply (op : Operation) : (a.apply op).Alike (b.apply op) where
  game := by
    cases op with
    | onMove hook => exact alike.game.onMove hook
    | _ => exact alike.game
  state := by
    rw [state_apply, state_apply, ← alike.game.world, alike.calls]
    exact alike.state.applyAll _ _

theorem reply (op : Operation) : a.reply op = b.reply op := by
  cases op with
  | command raw => exact Prod.ext rfl (alike.game.handle_quit alike.state raw)
  | step raw => exact Prod.ext (alike.game.handle alike.state raw).out (alike.game.handle_quit alike.state raw)
  | opening => exact Prod.ext (alike.game.opening alike.state) rfl
  | takeOutput => exact Prod.ext alike.state.out rfl
  | _ => rfl

end Alike

/-- Whatever becomes of the order of the tables, the courses of a session are its run without shuffles, up to the order
    of the tables at the end. -/
theorem plays_iff {a b now : Session} {ops : List Operation} {replies : List (Output × Bool)} (alike : a.Alike b) :
    b.Plays ops replies now ↔ replies = a.replies ops ∧ (a.run ops).Alike now := by
  constructor
  · intro plays
    induction plays generalizing a with
    | done shuffled => exact ⟨rfl, alike.trans shuffled⟩
    | @next _ _ _ op _ _ shuffled _ ih =>
      have together := alike.trans shuffled
      obtain ⟨same, ends⟩ := ih (together.apply op)
      exact ⟨by rw [Session.replies, together.reply, same], ends⟩
  · rintro ⟨rfl, ends⟩
    induction ops generalizing a b with
    | nil => exact .done (alike.symm.trans ends)
    | cons op ops ih => exact .next alike.symm (ih (.refl (a.apply op)) ends)

end Session

/-! ### Setting up a session -/

namespace World

/-- Orders in which the tables of a world and a language may give what they hold when a session is set up: the rooms,
    the junk words, the aliases before some are left out, and what lies in the rooms at the start. -/
structure Listing (w : World) (language : Language) where
  rooms : List Room
  junk : List String
  aliases : List Alias
  lying : List LyingItem
  rooms_perm : rooms.Perm w.rooms.values
  junk_mem : ∀ word, word ∈ junk ↔ word ∈ (w.gameIn language).normalizer.junk
  aliases_perm : aliases.Perm (AliasTable.ofGroups language.aliases w.aliases).entries.values
  lying_rooms : ∀ room, lying.filter (·.room == room) = w.initialState.lying.filter (·.room == room)

namespace Listing
variable {w : World} {language : Language} (l : w.Listing language)

/-- What validation reports if it meets the rooms in this order, and sorts them. -/
def defects : List Defect := World.defects { w with rooms := .ofList Room.id l.rooms }

/-- The session that is set up in these orders: the blocked exits are gathered room by room, and the aliases are kept
    or left out one by one. -/
def session : Session where
  game := { w.gameIn language with
    normalizer := {
      junk := l.junk
      aliases := ⟨.ofList Alias.word (l.aliases.filter fun a =>
        Normalizer.isStable l.junk (.ofGroups language.aliases w.aliases) a.root)⟩ } }
  state := { w.initialState with
    lying := l.lying
    blocked := l.rooms.flatMap fun room => (room.exits.filter Exit.blocked).map fun exit => ⟨room.id, exit.direction⟩ }

theorem defects_eq : l.defects = w.defects := by
  rw [defects, Catalog.ofList_of_perm l.rooms_perm]

theorem contains_junk (token : String) : l.junk.contains token = (w.gameIn language).normalizer.junk.contains token := by
  rw [Bool.eq_iff_iff, List.contains_iff_mem, List.contains_iff_mem, l.junk_mem]

theorem isStable_junk (table : AliasTable) (root : String) :
    Normalizer.isStable l.junk table root = Normalizer.isStable (w.gameIn language).normalizer.junk table root := by
  simp only [Normalizer.isStable, l.contains_junk]

/-- Whether an alias is kept does not depend on which ones were met before. -/
theorem aliases_eq : l.session.game.normalizer.aliases.entries = (w.gameIn language).normalizer.aliases.entries := by
  refine Catalog.ofList_of_perm ?_
  simp only [l.isStable_junk]
  exact l.aliases_perm.filter _

theorem normalizer_alike : (w.gameIn language).normalizer.Alike l.session.game.normalizer where
  junk token := (l.contains_junk token).symm
  aliases word := by rw [AliasTable.get?, AliasTable.get?, l.aliases_eq]

/-- The session is alike whatever the orders. -/
theorem session_alike : Session.Alike ⟨w.gameIn language, w.initialState⟩ l.session where
  game := ⟨rfl, l.normalizer_alike, rfl, rfl⟩
  state := {
    here := rfl
    inventory := rfl
    out := rfl
    items room := congrArg (List.map LyingItem.item) (l.lying_rooms room).symm
    exits _ _ := (l.rooms_perm.flatMap_right _).contains_eq.symm }

end Listing
end World

/-- The state after the item of this name has been put into the inventory. It is looked for in one room after the
    other. -/
def State.giveThrough (w : World) (rooms : List String) (name : String) (s : State) : State :=
  match w.item? name with
  | none => s
  | some item => { s with
      lying := rooms.foldl (fun lying room => lying.filter fun l => !(l.room == room && l.item.name == name)) s.lying
      inventory := s.inventory.insert item }

theorem foldl_filter_rooms (name : String) (rooms : List String) (lying : List LyingItem) :
    rooms.foldl (fun lying room => lying.filter fun l => !(l.room == room && l.item.name == name)) lying =
      lying.filter fun l => !(rooms.contains l.room && l.item.name == name) := by
  induction rooms generalizing lying with
  | nil => simp
  | cons room rooms ih =>
    rw [List.foldl_cons, ih, List.filter_filter]
    congr 1
    funext l
    by_cases here : l.room = room
    · simp [here, imp_or]
    · simp [here]

/-- The rooms may be gone through in any order, if none is left out where something lies. -/
theorem State.giveThrough_eq_give {w : World} {rooms : List String} {name : String} {s : State}
    (everywhere : ∀ l ∈ s.lying, l.room ∈ rooms) : s.giveThrough w rooms name = s.give w name := by
  have swept : s.lying.filter (fun l => !(rooms.contains l.room && l.item.name == name)) =
      s.lying.filter (·.item.name != name) := by
    refine List.filter_congr fun l member => ?_
    rw [List.contains_iff_mem.mpr (everywhere l member), Bool.true_and, bne]
  rw [giveThrough, give]
  cases w.item? name with
  | none => rfl
  | some item => rw [foldl_filter_rooms, swept]

/-! ### Worlds that cannot be told apart -/

namespace World

/-- Two worlds that are validated alike, and whose sessions in one language give the same replies to the same
    operations and stay in alike states. This also holds if the tables of the second world are gone through in other
    orders when its session is set up, and are shuffled between any two operations. -/
structure Indistinguishable (w w' : World) : Prop where
  defects : w.defects = w'.defects
  sessions : ∀ language session session', Session.start w language = .ok session →
    Session.start w' language = .ok session' → ∀ ops,
      session.replies ops = session'.replies ops ∧ (session.run ops).state.Alike (session'.run ops).state
  listings : ∀ language (l : w'.Listing language), w.defects = l.defects ∧
    ∀ session, Session.start w language = .ok session → ∀ ops replies now,
      l.session.Plays ops replies now ↔ replies = session.replies ops ∧ (session.run ops).Alike now

theorem Indistinguishable.refl (w : World) : w.Indistinguishable w where
  defects := rfl
  sessions language session session' started started' ops := by
    obtain rfl := Except.ok.inj (started.symm.trans started')
    exact ⟨rfl, .refl _⟩
  listings language l := by
    refine ⟨l.defects_eq.symm, fun session started ops replies now => ?_⟩
    obtain ⟨-, rfl⟩ := Session.start_eq_ok started
    exact Session.plays_iff l.session_alike

/-- Two attempts to load a world that both fail, or give worlds that cannot be told apart. -/
structure AcceptedAlike {ε : Type} (x y : Except ε World) : Prop where
  accepted : x.isOk = y.isOk
  worlds : ∀ w w', x = .ok w → y = .ok w' → w.Indistinguishable w'

theorem AcceptedAlike.of_eq_ok_iff {ε : Type} {x y : Except ε World} (same : ∀ w, y = .ok w ↔ x = .ok w) :
    AcceptedAlike x y where
  accepted := by
    cases x with
    | ok w => rw [(same w).mpr rfl]
    | error e =>
      cases y with
      | ok w => exact nomatch (same w).mp rfl
      | error e' => rfl
  worlds w w' first second := by
    obtain rfl := Except.ok.inj (first.symm.trans ((same w').mp second))
    exact .refl w

theorem ofText_eq_ok_iff {text : String} {file : WorldFile} (parsed : WorldFile.ofText? text = some file) {w : World} :
    ofText text = .ok w ↔ ofFile file = .ok w := by
  rw [ofText, parsed]
  dsimp only
  cases ofFile file <;> simp [Except.mapError]

/-- Rooms may be declared in any order, and added to a world in any order: a file with its rooms in another order is
    accepted exactly if it was before, and nothing that a session is asked for tells which it was. For nothing depends
    on the order of a table: of rooms, of what lies in them, of blocked exits, of aliases or of junk words. -/
theorem rooms_in_any_order :
    (∀ file file' : WorldFile, file.Reordered file' → AcceptedAlike (ofFile file) (ofFile file')) ∧
    (∀ text text' file file', WorldFile.ofText? text = some file → WorldFile.ofText? text' = some file' →
      file.Reordered file' → AcceptedAlike (ofText text) (ofText text')) ∧
    (∀ (w : World) (parts parts' : List (Room ⊕ Item)),
      (parts'.filterMap Sum.getLeft?).Perm (parts.filterMap Sum.getLeft?) →
      ((parts.filterMap Sum.getLeft?).map Room.id).Nodup →
      parts'.filterMap Sum.getRight? = parts.filterMap Sum.getRight? →
        (w.build parts).Indistinguishable (w.build parts')) ∧
    ∀ (w : World) (s : State) (name : String) (rooms : List String), (∀ l ∈ s.lying, l.room ∈ rooms) →
      s.giveThrough w rooms name = s.give w name := by
  refine ⟨fun file file' reordered => ?_, fun text text' file file' parsed parsed' reordered => ?_,
    fun w parts parts' rooms distinct items => ?_, fun w s name rooms everywhere => ?_⟩
  · exact .of_eq_ok_iff fun w => reordered.ofFile_eq_ok_iff
  · refine .of_eq_ok_iff fun w => ?_
    rw [ofText_eq_ok_iff parsed, ofText_eq_ok_iff parsed', reordered.ofFile_eq_ok_iff]
  · rw [w.build_perm rooms distinct items]
    exact .refl _
  · exact State.giveThrough_eq_give everywhere

/-- Who enters the hall falls into the cellar, whether this is declared after the hall or before it. -/
theorem rooms_in_any_order_cellar :
    let header := "[world]\nid='h'\nname=''\nstart_room='hall'\n"
    let hallText := "[[room]]\nid='hall'\nname=''\nexit=[['d','cellar']]\non_enter=[\x7bgo_to='cellar'\x7d]\n"
    let cellarText := "[[room]]\nid='cellar'\nname=''\nexit=[['u','hall']]\n"
    let hall : RoomDecl := { id := "hall", name := "", exits := [⟨"d", "cellar", false⟩], onEnter := [{ goTo := some "cellar" }] }
    let cellar : RoomDecl := { id := "cellar", name := "", exits := [⟨"u", "hall", false⟩] }
    let file : WorldFile := { header := { id := "h", name := "", startRoom := "hall" }, rooms := [hall, cellar] }
    let file' : WorldFile := { file with rooms := [cellar, hall] }
    let session : Session := ⟨file.world.gameIn .english, file.world.initialState⟩
    let session' : Session := ⟨file'.world.gameIn .english, file'.world.initialState⟩
    let ops : List Operation := [.onMove [.render], .opening, .step "down", .step "go up", .takeOutput]
    let lamp : Item := { name := "lamp", start := some (.room "a") }
    let bare : World := { id := "house", startRoom := "a" }
    let s : State := { here := "a", lying := [⟨"b", lamp⟩, ⟨"a", lamp⟩] }
    file.Reordered file' ∧ WorldFile.ofText? (header ++ hallText ++ cellarText) = some file ∧
      WorldFile.ofText? (header ++ cellarText ++ hallText) = some file' ∧
      (ofText (header ++ hallText ++ cellarText)).isOk = (ofText (header ++ cellarText ++ hallText)).isOk ∧
      ofFile file = .ok file.world ∧ ofFile file' = .ok file'.world ∧
      Session.start file.world .english = .ok session ∧ Session.start file'.world .english = .ok session' ∧
      session.replies ops = session'.replies ops ∧
      (bare.build [.inl (.ofId "a"), .inr lamp, .inl (.ofId "b")]).Indistinguishable
        (bare.build [.inl (.ofId "b"), .inl (.ofId "a"), .inr lamp]) ∧
      s.giveThrough (bare.addItem lamp) ["a", "c", "b"] "lamp" = s.give (bare.addItem lamp) "lamp" := by
  intro header hallText cellarText hall cellar file file' session session' ops lamp bare s
  obtain ⟨files, texts, built, given⟩ := rooms_in_any_order
  have reordered : file.Reordered file' := ⟨.swap _ _ _, rfl⟩
  have parsed : WorldFile.ofText? (header ++ hallText ++ cellarText) = some file := by decide +kernel
  have parsed' : WorldFile.ofText? (header ++ cellarText ++ hallText) = some file' := by decide +kernel
  have loaded : ofFile file = .ok file.world := ofFile_eq_ok_of_isOk (by decide +kernel)
  have loaded' : ofFile file' = .ok file'.world := ofFile_eq_ok_of_isOk (by decide +kernel)
  have sound : file.world.defects = [] := by decide +kernel
  have sound' : file'.world.defects = [] := by decide +kernel
  have started : Session.start file.world .english = .ok session := by rw [Session.start, sound]
  have started' : Session.start file'.world .english = .ok session' := by rw [Session.start, sound']
  have alike := (files file file' reordered).worlds _ _ loaded loaded'
  have same : session.replies ops = session'.replies ops := (alike.sessions .english session session' started started' ops).1
  exact ⟨reordered, parsed, parsed', (texts _ _ file file' parsed parsed' reordered).accepted, loaded, loaded', started,
    started', same, built bare _ _ (.swap _ _ _) (by decide) rfl,
    given (bare.addItem lamp) s "lamp" ["a", "c", "b"] (by decide)⟩

end World
end TextAdventure
