import TextAdventure.Play.Session
import TextAdventure.Proofs.NormalForm

/-! Who answers a command. All that may answer it stands in one list of candidates; the first of them that
    claims the command's normal form answers, from the state in which the command was given
    (`handle_eq_answer`). So what declines before it has changed nothing, and no second action runs. -/

namespace TextAdventure
open Text

/-- Something that may answer a command given in a room. -/
inductive Claimant where
  | exit (exit : Exit)
  | action (action : Action)
  | quit
  /-- The reply where there is no way out. -/
  | trap
  | inventory
  | look
  | examine
  | take
  | drop
  | fallback
deriving DecidableEq, Repr

namespace Game
variable {g : Game} {room : Room} {n : String} {s : State}

/-- The built-in commands in their order. -/
def builtIns : List Claimant := [.quit, .inventory, .look, .examine, .take, .drop, .fallback]

/-- All that may answer a command in a room, those with precedence first. -/
def candidates (room : Room) (s : State) : List Claimant :=
  if room.exits = [] then [.quit, .trap]
  else
    room.exits.map .exit ++ (room.actions.map .action ++
      ((s.inventory.values.flatMap Item.actions).map .action ++ builtIns))

/-- The claimant takes the command with the normal form `n` as its own. -/
def Claims (g : Game) (room : Room) (n : String) (s : State) : Claimant → Prop
  | .exit e => s.exitBlocked room.id e = false ∧
      (n = e.direction ∨ g.directions.fullName? e.direction = some n)
  | .action a => ∃ phrase ∈ a.phrases, g.normalizer.normalize phrase = n
  | .quit => n = "quit" ∨ n = "exit"
  | .inventory => n = "i" ∨ n = "inventory"
  | .look => n = "look"
  | .examine => (words n).head? = some "examine"
  | .take => (words n).head? = some "take"
  | .drop => (words n).head? = some "drop"
  | .trap | .fallback => True

instance : DecidablePred (g.Claims room n s)
  | .exit _ => inferInstanceAs (Decidable (_ ∧ _))
  | .action a => inferInstanceAs (Decidable (∃ phrase ∈ a.phrases, g.normalizer.normalize phrase = n))
  | .quit | .inventory => inferInstanceAs (Decidable (_ ∨ _))
  | .look => inferInstanceAs (Decidable (_ = _))
  | .examine | .take | .drop => inferInstanceAs (Decidable (_ = _))
  | .trap | .fallback => inferInstanceAs (Decidable True)

/-- The claimant answers the command with the normal form `n`. The flag tells that the player leaves the
    game. The name of an item is what follows the first word. -/
def answer (g : Game) (room : Room) (n : String) (s : State) : Claimant → State × Bool
  | .exit e =>
    match g.world.room? e.target with
    | some next => (g.enter next s, false)
    | none => (s.say s!"You try to go {e.direction}, but something feels wrong (room not found).", false)
  | .action a =>
    if ∀ name ∈ a.requires, s.carries name = true then (g.fire room a.effect s, false)
    else (s.say (a.missingText.getD "You don't have that."), false)
  | .quit => (s.say "Goodbye.", true)
  | .trap => (s.say "You are trapped!", false)
  | .inventory => (s.listInventory, false)
  | .look => (s.render room, false)
  | .examine => (s.examine room (joinSpaces (words n).tail), false)
  | .take => (s.take room (joinSpaces (words n).tail), false)
  | .drop => (s.drop room (joinSpaces (words n).tail), false)
  | .fallback => (s.say "You can't do that.", false)

/-- The first claimant of a list that claims the command. -/
def first? (g : Game) (room : Room) (n : String) (s : State) (claimants : List Claimant) : Option Claimant :=
  claimants.find? (g.Claims room n s ·)

/-- The first candidate that claims the command. -/
def claimant (g : Game) (room : Room) (n : String) (s : State) : Claimant :=
  (g.first? room n s (candidates room s)).getD .fallback

theorem first?_cons_of_claims {c : Claimant} (h : g.Claims room n s c) (rest : List Claimant) :
    g.first? room n s (c :: rest) = some c := List.find?_cons_of_pos (decide_eq_true h)

theorem first?_cons_of_not_claims {c : Claimant} (h : ¬g.Claims room n s c) (rest : List Claimant) :
    g.first? room n s (c :: rest) = g.first? room n s rest := List.find?_cons_of_neg (by simpa using h)

theorem first?_append (cs ds : List Claimant) :
    g.first? room n s (cs ++ ds) = (g.first? room n s cs).or (g.first? room n s ds) := List.find?_append

/-! ### Exits and actions -/

theorem claims_exit_iff {e : Exit} :
    g.Claims room n s (.exit e) ↔ (!s.exitBlocked room.id e && g.names n e) = true := by
  rw [Bool.and_eq_true, Bool.not_eq_true', names, Bool.or_eq_true, beq_iff_eq, beq_iff_eq]
  rfl

theorem claims_action_iff {a : Action} : g.Claims room n s (.action a) ↔ g.triggers n a = true := by
  rw [triggers, List.any_eq_true]
  simp only [beq_iff_eq]
  rfl

theorem first?_exits : g.first? room n s (room.exits.map .exit) = (g.exitFor? room n s).map .exit := by
  rw [first?, List.find?_map, exitFor?]
  congr 2
  funext e
  rw [Bool.eq_iff_iff, ← claims_exit_iff, Function.comp_apply, decide_eq_true_iff]

theorem first?_actions (actions : List Action) :
    g.first? room n s (actions.map .action) = (actions.find? (g.triggers n)).map .action := by
  rw [first?, List.find?_map]
  congr 2
  funext a
  rw [Bool.eq_iff_iff, ← claims_action_iff, Function.comp_apply, decide_eq_true_iff]

theorem tryActions_eq_map_find? (actions : List Action) :
    g.tryActions room n actions s = (actions.find? (g.triggers n)).map fun a => g.perform room a s := by
  induction actions with
  | nil => rfl
  | cons a actions ih =>
    unfold tryActions at ih ⊢
    by_cases h : g.triggers n a = true
    · simp [tryAction, h]
    · simpa [tryAction, h] using ih

theorem answer_action (a : Action) : g.answer room n s (.action a) = (g.perform room a s, false) := by
  by_cases h : ∀ name ∈ a.requires, s.carries name = true
  · rw [answer, perform, if_pos h, if_pos (List.all_eq_true.mpr h)]
  · rw [answer, perform, if_neg h, if_neg (mt List.all_eq_true.mp h), missingItemText]

/-- An action that lacks something only says so. -/
theorem answer_action_of_lacking {a : Action} {name : String} (required : name ∈ a.requires)
    (lacking : s.carries name = false) :
    g.answer room n s (.action a) = (s.say (a.missingText.getD "You don't have that."), false) := by
  rw [answer, if_neg fun carried => by simp [carried name required] at lacking]

/-! ### Built-in commands -/

/-- Cutting a normal form at its first space finds its first word and the others in a row. -/
theorem cutAtSpace_normalize (n : Normalizer) (raw : String) :
    cutAtSpace (n.normalize raw) =
      ((words (n.normalize raw)).headD "", joinSpaces (words (n.normalize raw)).tail) := by
  rw [Normalizer.normalize, words_collapse, collapse_eq_joinSpaces_words]
  cases hws : words (n.resolveAliases (collapse (n.dropJunk (collapse (fold raw))))) with
  | nil => simp [joinSpaces, cutAtSpace]
  | cons w ws =>
    have hw : w ∈ words (n.resolveAliases (collapse (n.dropJunk (collapse (fold raw))))) := by simp [hws]
    rw [cutAtSpace_joinSpaces (mem_words hw).1]
    rfl

theorem claims_trap : g.Claims room n s .trap := trivial

theorem claims_fallback : g.Claims room n s .fallback := trivial

theorem isQuit_iff : isQuit n = true ↔ g.Claims room n s .quit := by simp [isQuit, Claims]

theorem match_verb_eq_answer (verb name : String) : verb = (words n).headD "" → name = joinSpaces (words n).tail →
    (match verb with
      | "examine" => (s.examine room name, false)
      | "take" => (s.take room name, false)
      | "drop" => (s.drop room name, false)
      | _ => (s.say "You can't do that.", false)) =
    g.answer room n s ((g.first? room n s [.examine, .take, .drop, .fallback]).getD .fallback) := by
  rintro hverb rfl
  have hclaims {w : String} (hw : w ≠ "") : verb = w ↔ (words n).head? = some w := by
    rw [hverb]
    cases words n with
    | nil => simp [hw.symm]
    | cons v ws => simp
  by_cases hexamine : g.Claims room n s .examine
  · rw [first?_cons_of_claims hexamine, (hclaims (by decide)).mpr hexamine]
    rfl
  rw [first?_cons_of_not_claims hexamine]
  by_cases htake : g.Claims room n s .take
  · rw [first?_cons_of_claims htake, (hclaims (by decide)).mpr htake]
    rfl
  rw [first?_cons_of_not_claims htake]
  by_cases hdrop : g.Claims room n s .drop
  · rw [first?_cons_of_claims hdrop, (hclaims (by decide)).mpr hdrop]
    rfl
  rw [first?_cons_of_not_claims hdrop, first?_cons_of_claims claims_fallback]
  split
  · exact absurd ((hclaims (by decide)).mp rfl) hexamine
  · exact absurd ((hclaims (by decide)).mp rfl) htake
  · exact absurd ((hclaims (by decide)).mp rfl) hdrop
  · rfl

theorem runBuiltIn_eq_answer (hcut : cutAtSpace n = ((words n).headD "", joinSpaces (words n).tail)) :
    runBuiltIn room n s = g.answer room n s ((g.first? room n s builtIns).getD .fallback) := by
  unfold runBuiltIn builtIns
  by_cases hquit : g.Claims room n s .quit
  · rw [if_pos (isQuit_iff.mpr hquit), first?_cons_of_claims hquit]
    rfl
  rw [if_neg (mt isQuit_iff.mp hquit), first?_cons_of_not_claims hquit]
  by_cases hinventory : g.Claims room n s .inventory
  · rw [if_pos (by simpa [Claims] using hinventory), first?_cons_of_claims hinventory]
    rfl
  rw [if_neg (by simpa [Claims] using hinventory), first?_cons_of_not_claims hinventory]
  by_cases hlook : g.Claims room n s .look
  · rw [if_pos (by simpa [Claims] using hlook), first?_cons_of_claims hlook]
    rfl
  rw [if_neg (by simpa [Claims] using hlook), first?_cons_of_not_claims hlook, hcut]
  exact match_verb_eq_answer _ _ rfl rfl

/-! ### Every command -/

theorem handled_notAMove : MoveOutcome.notAMove.handled = false := rfl

/-- A command that names no open exit leaves the state as it is. -/
theorem tryMove_of_not_claims (hexits : room.exits ≠ []) (h : ∀ e ∈ room.exits, ¬g.Claims room n s (.exit e)) :
    g.tryMove room n s = (.notAMove, s) := by
  have hnone : g.exitFor? room n s = none :=
    List.find?_eq_none.mpr fun e he => mt claims_exit_iff.mpr (h e he)
  rw [tryMove, if_neg (by simpa using hexits), hnone]

theorem tryMove_of_exitFor? {e : Exit} (hexits : room.exits ≠ []) (h : g.exitFor? room n s = some e) :
    ∃ outcome t, g.tryMove room n s = (outcome, t) ∧ outcome.handled = true ∧
      g.answer room n s (.exit e) = (t, false) := by
  cases htarget : g.world.room? e.target with
  | some next => exact ⟨.moved, g.enter next s, by simp [tryMove, hexits, h, htarget], rfl, by simp [answer, htarget]⟩
  | none =>
    refine ⟨.broken, (g.answer room n s (.exit e)).1, ?_, rfl, ?_⟩ <;>
      simp [tryMove, hexits, h, answer, htarget]

theorem resolve_eq_answer (hcut : cutAtSpace n = ((words n).headD "", joinSpaces (words n).tail)) :
    g.resolve room n s = g.answer room n s (g.claimant room n s) := by
  unfold resolve claimant candidates
  by_cases hexits : room.exits = []
  · rw [if_pos hexits]
    by_cases hquit : g.Claims room n s .quit
    · rw [first?_cons_of_claims hquit, if_pos (by simp [hexits, isQuit_iff.mpr hquit])]
      rfl
    · rw [first?_cons_of_not_claims hquit, if_neg (by simp [mt isQuit_iff.mp hquit]),
        first?_cons_of_claims claims_trap]
      simp [tryMove, hexits, MoveOutcome.handled, answer]
  · rw [if_neg hexits, if_neg (by simp [hexits]), first?_append, first?_append, first?_append, first?_exits,
      first?_actions, first?_actions]
    cases hexit : g.exitFor? room n s with
    | some e =>
      obtain ⟨outcome, t, hmove, hhandled, hanswer⟩ := tryMove_of_exitFor? hexits hexit
      rw [hmove]
      exact (if_pos hhandled).trans hanswer.symm
    | none =>
      have hdeclined (e) (he : e ∈ room.exits) : ¬g.Claims room n s (.exit e) :=
        mt claims_exit_iff.mp (List.find?_eq_none.mp hexit e he)
      simp only [tryMove_of_not_claims hexits hdeclined, handled_notAMove, Bool.false_eq_true, if_false,
        tryActions_eq_map_find?, carriedActions]
      cases hroom : room.actions.find? (g.triggers n) with
      | some a => exact (answer_action a).symm
      | none =>
        cases hcarried : (s.inventory.values.flatMap Item.actions).find? (g.triggers n) with
        | some a => exact (answer_action a).symm
        | none => exact runBuiltIn_eq_answer hcut

/-- A command given in a room of the world is answered by the first candidate that claims it. -/
theorem handle_eq_answer (here : g.world.room? s.here = some room) (raw : String) :
    g.handle raw s =
      g.answer room (g.normalizer.normalize raw) s (g.claimant room (g.normalizer.normalize raw) s) := by
  rw [handle, here]
  exact resolve_eq_answer (cutAtSpace_normalize g.normalizer raw)

theorem exists_first?_candidates (g : Game) (room : Room) (n : String) (s : State) :
    ∃ c, g.first? room n s (candidates room s) = some c := by
  rw [← Option.isSome_iff_exists, first?, List.find?_isSome]
  unfold candidates
  split
  · exact ⟨.trap, by simp, decide_eq_true claims_trap⟩
  · exact ⟨.fallback, by simp [builtIns], decide_eq_true claims_fallback⟩

theorem first?_candidates (g : Game) (room : Room) (n : String) (s : State) :
    g.first? room n s (candidates room s) = some (g.claimant room n s) := by
  obtain ⟨c, found⟩ := exists_first?_candidates g room n s
  rw [claimant, found, Option.getD_some]

theorem claimant_mem_candidates (g : Game) (room : Room) (n : String) (s : State) :
    g.claimant room n s ∈ candidates room s := List.mem_of_find?_eq_some (first?_candidates g room n s)

theorem claims_claimant (g : Game) (room : Room) (n : String) (s : State) : g.Claims room n s (g.claimant room n s) := by
  simpa using List.find?_some (first?_candidates g room n s)

theorem mem_exits_of_mem_candidates {e : Exit} (h : .exit e ∈ candidates room s) : e ∈ room.exits := by
  unfold candidates at h
  split at h
  · simp at h
  · simpa [builtIns] using h

end Game
end TextAdventure
