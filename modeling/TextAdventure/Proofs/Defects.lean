import TextAdventure.Proofs.ValidWorld
import TextAdventure.Play.Session
import Mathlib.Data.List.Perm.Basic

/-! What a report of defects says. `World.DefectAt` states what is wrong at which place of a world, without a
    look at the checks; a report lists exactly that, each defect once, in the order of the places
    (`Reports`). There is one report only, and `World.defects` is it.

    The checks are loops over the rooms, the items, their exits and their actions, one after another.
    So a report is put together: reports of places that follow each other make one report when they are
    appended (`Reports.append`), and so does what a loop collects (`Reports.flatten_mapIdx`). -/

namespace TextAdventure

/-- What declares actions: a room or, counted as declared, an item. -/
inductive Owner where
  | room (id : String)
  | item (index : Nat)

/-- A place of a world where something can be wrong. Exits, items, actions and requirements are counted as they are
    declared. -/
inductive Site where
  | rooms
  | startRoom
  | exit (room : String) (index : Nat)
  | itemName (index : Nat)
  | itemStart (index : Nat)
  | phrases (owner : Owner) (action : Nat)
  | requirement (owner : Owner) (action index : Nat)

/-! The order of a report. Its parts follow each other; the parts about exits and about the actions of rooms go
    through the rooms, and what a room or an item declares is found by a way of indices. -/

namespace Owner

def part : Owner → Nat
  | room _ => 4
  | item _ => 5

def roomId : Owner → String
  | room id => id
  | item _ => ""

def path : Owner → List Nat
  | room _ => []
  | item i => [i]

end Owner

namespace Site

/-- The part of a report that a place belongs to. -/
def part : Site → Nat
  | rooms => 0
  | startRoom => 1
  | exit .. => 2
  | itemName _ | itemStart _ => 3
  | phrases owner _ | requirement owner .. => owner.part

/-- The room of a place, in the parts that go through the rooms. -/
def roomId : Site → String
  | rooms | startRoom | itemName _ | itemStart _ => ""
  | exit id _ => id
  | phrases owner _ | requirement owner .. => owner.roomId

/-- The way to a place from its room, or from the part. -/
def path : Site → List Nat
  | rooms | startRoom => []
  | exit _ i | itemName i => [i]
  | itemStart i => [i, 0]
  | phrases owner a => owner.path ++ [a]
  | requirement owner a k => owner.path ++ [a, k]

/-- The order of a report: by part, then by the id of the room, then by the way, as words in a dictionary. -/
def Before (s t : Site) : Prop :=
  s.part < t.part ∨ s.part = t.part ∧ (s.roomId < t.roomId ∨ s.roomId = t.roomId ∧ s.path < t.path)

theorem Before.asymm {s t : Site} (ahead : s.Before t) : ¬t.Before s := by
  intro behind
  rcases ahead with part | ⟨samePart, room | ⟨sameRoom, path⟩⟩
  · rcases behind with part' | ⟨samePart', -⟩ <;> omega
  · rcases behind with part' | ⟨-, room' | ⟨sameRoom', -⟩⟩
    · omega
    · exact String.lt_asymm room room'
    · exact String.lt_irrefl _ (sameRoom' ▸ room)
  · rcases behind with part' | ⟨-, room' | ⟨-, path'⟩⟩
    · omega
    · exact String.lt_irrefl _ (sameRoom ▸ room')
    · exact List.lt_asymm path path'

/-- A place in a part of the report and in a room, whose way there starts with `way`. -/
structure Under (part : Nat) (roomId : String) (way : List Nat) (s : Site) : Prop where
  part_eq : s.part = part
  roomId_eq : s.roomId = roomId
  path : way <+: s.path

theorem Under.before {part : Nat} {roomId : String} {i j : Nat} {s t : Site} (way : List Nat)
    (here : s.Under part roomId (way ++ [i])) (there : t.Under part roomId (way ++ [j])) (less : i < j) : s.Before t := by
  obtain ⟨rest, path⟩ := here.path
  obtain ⟨rest', path'⟩ := there.path
  refine .inr ⟨here.part_eq.trans there.part_eq.symm, .inr ⟨here.roomId_eq.trans there.roomId_eq.symm, ?_⟩⟩
  rw [← path, ← path', List.append_assoc, List.append_assoc]
  exact List.append_left_lt (List.cons_lt_cons_iff.mpr (.inl less))

theorem Under.shorten {part : Nat} {roomId : String} {rest : List Nat} {s : Site} (way : List Nat)
    (here : s.Under part roomId (way ++ rest)) : s.Under part roomId way :=
  ⟨here.part_eq, here.roomId_eq, (List.prefix_append way rest).trans here.path⟩

theorem Under.before_of_roomId {part : Nat} {id id' : String} {way way' : List Nat} {s t : Site}
    (here : s.Under part id way) (there : t.Under part id' way') (less : id < id') : s.Before t := by
  refine .inr ⟨here.part_eq.trans there.part_eq.symm, .inl ?_⟩
  rw [here.roomId_eq, there.roomId_eq]
  exact less

end Site

/-! ### Reports -/

variable {p q : Site → Defect → Prop} {xs ys : List Defect}

/-- A list of defects says what `p` says is wrong where: each defect once, in the order of the places. -/
def Reports (p : Site → Defect → Prop) (ds : List Defect) : Prop :=
  ∃ found : List (Site × Defect), found.map Prod.snd = ds ∧ (∀ site d, (site, d) ∈ found ↔ p site d) ∧
    (found.map Prod.fst).Pairwise Site.Before

namespace Reports

theorem congr (report : Reports p xs) (same : ∀ site d, p site d ↔ q site d) : Reports q xs := by
  obtain ⟨found, defects, members, ordered⟩ := report
  exact ⟨found, defects, fun site d => (members site d).trans (same site d), ordered⟩

theorem nil (none : ∀ site d, ¬p site d) : Reports p [] :=
  ⟨[], rfl, fun site d => iff_of_false List.not_mem_nil (none site d), .nil⟩

/-- A check of one place. -/
theorem ite (c : Prop) [Decidable c] (s : Site) (b : Defect) :
    Reports (fun site d => c ∧ site = s ∧ d = b) (if c then [b] else []) := by
  by_cases wrong : c
  · rw [if_pos wrong]
    exact ⟨[(s, b)], rfl, fun site d => by simp [wrong], List.pairwise_singleton ..⟩
  · rw [if_neg wrong]
    exact nil fun site d found => wrong found.1

theorem ite_nil (c : Prop) [Decidable c] (s : Site) (b : Defect) :
    Reports (fun site d => ¬c ∧ site = s ∧ d = b) (if c then [] else [b]) := by
  rw [← ite_not]
  exact ite (¬c) s b

/-- Two reports one after another, of which the first is about earlier places. -/
theorem append (front : Reports p xs) (back : Reports q ys)
    (order : ∀ s d t e, p s d → q t e → s.Before t) : Reports (fun s d => p s d ∨ q s d) (xs ++ ys) := by
  obtain ⟨found, defects, members, ordered⟩ := front
  obtain ⟨found', defects', members', ordered'⟩ := back
  refine ⟨found ++ found', by rw [List.map_append, defects, defects'], fun s d => ?_, ?_⟩
  · rw [List.mem_append, members, members']
  · rw [List.map_append, List.pairwise_append]
    refine ⟨ordered, ordered', fun s here t there => ?_⟩
    obtain ⟨⟨s, d⟩, listed, rfl⟩ := List.mem_map.mp here
    obtain ⟨⟨t, e⟩, listed', rfl⟩ := List.mem_map.mp there
    exact order s d t e ((members s d).mp listed) ((members' t e).mp listed')

section
variable {α : Type} {l : List α}

/-- What a loop collects that reports its rounds, if the rounds go through the places in order. -/
theorem flatMap {p : α → Site → Defect → Prop} {f : α → List Defect} (each : ∀ x ∈ l, Reports (p x) (f x))
    (order : l.Pairwise fun x y => ∀ s d t e, p x s d → p y t e → s.Before t) :
    Reports (fun s d => ∃ x ∈ l, p x s d) (l.flatMap f) := by
  induction l with
  | nil => exact nil fun s d ⟨x, member, _⟩ => nomatch member
  | cons x l ih =>
    obtain ⟨first, rest⟩ := List.pairwise_cons.mp order
    rw [List.flatMap_cons]
    refine ((each x List.mem_cons_self).append (ih (fun y member => each y (List.mem_cons_of_mem x member)) rest)
      ?_).congr fun s d => by simp only [List.mem_cons, exists_eq_or_imp]
    rintro s d t e here ⟨y, member, there⟩
    exact first y member s d t e here there

theorem pairwise_snd_zipIdx (l : List α) (n : Nat) : (l.zipIdx n).Pairwise fun x y => x.2 < y.2 := by
  induction l generalizing n with
  | nil => exact .nil
  | cons x l ih => exact List.pairwise_cons.mpr ⟨fun y member => List.le_snd_of_mem_zipIdx member, ih (n + 1)⟩

/-- A loop that counts its rounds. -/
theorem flatten_mapIdx {p : Nat → α → Site → Defect → Prop} {f : Nat → α → List Defect}
    (each : ∀ i x, l[i]? = some x → Reports (p i x) (f i x))
    (order : ∀ i j x y s d t e, i < j → p i x s d → p j y t e → s.Before t) :
    Reports (fun s d => ∃ i x, l[i]? = some x ∧ p i x s d) (l.mapIdx f).flatten := by
  rw [List.mapIdx_eq_zipIdx_map, ← List.flatMap_def]
  refine (flatMap (p := fun x => p x.2 x.1)
    (fun x member => each x.2 x.1 (List.mem_zipIdx_iff_getElem?.mp member))
    ((pairwise_snd_zipIdx l 0).imp fun less s d t e => order _ _ _ _ s d t e less)).congr fun s d => ?_
  constructor
  · rintro ⟨⟨x, i⟩, member, here⟩
    exact ⟨i, x, List.mem_zipIdx_iff_getElem?.mp member, here⟩
  · rintro ⟨i, x, found, here⟩
    exact ⟨(x, i), List.mem_zipIdx_iff_getElem?.mpr found, here⟩

/-- A loop whose rounds do not look at their number. -/
theorem flatMap_of_getElem? {p : Nat → α → Site → Defect → Prop} {f : α → List Defect}
    (each : ∀ i x, l[i]? = some x → Reports (p i x) (f x))
    (order : ∀ i j x y s d t e, i < j → p i x s d → p j y t e → s.Before t) :
    Reports (fun s d => ∃ i x, l[i]? = some x ∧ p i x s d) (l.flatMap f) := by
  have rounds : l.mapIdx (fun _ => f) = l.map f := List.ext_getElem? fun i => by simp
  rw [List.flatMap_def, ← rounds]
  exact flatten_mapIdx each order

/-- A loop that reports the values which fail a check. -/
theorem map_filter {c : α → Bool} {f : α → Defect} (site : Nat → Site)
    (order : ∀ i j, i < j → (site i).Before (site j)) :
    Reports (fun s d => ∃ i x, l[i]? = some x ∧ c x = true ∧ s = site i ∧ d = f x) ((l.filter c).map f) := by
  have rounds : (l.filter c).map f = l.flatMap fun x => if c x = true then [f x] else [] := by
    rw [← List.filterMap_eq_filter, List.map_filterMap, List.filterMap_eq_flatMap_toList]
    refine List.flatMap_congr fun x _ => ?_
    cases h : c x <;> simp [Option.guard, h]
  rw [rounds]
  refine flatMap_of_getElem? (fun i x _ => ite (c x = true) (site i) (f x)) ?_
  rintro i j x y s d t e less ⟨-, rfl, -⟩ ⟨-, rfl, -⟩
  exact order i j less

end

/-- A report of a part, after those of the parts before. -/
theorem append_part {k : Nat} (front : Reports p xs ∧ ∀ s d, p s d → s.part < k) (back : Reports q ys)
    (part : ∀ s d, q s d → s.part = k) :
    Reports (fun s d => p s d ∨ q s d) (xs ++ ys) ∧ ∀ s d, p s d ∨ q s d → s.part < k + 1 := by
  refine ⟨front.1.append back fun s d t e here there => .inl ?_, fun s d wrong => ?_⟩
  · exact (part t e there).symm ▸ front.2 s d here
  · rcases wrong with here | here
    · exact Nat.lt_succ_of_lt (front.2 s d here)
    · exact (part s d here).symm ▸ Nat.lt_succ_self k

/-- There is one report only. -/
theorem eq (report : Reports p xs) (report' : Reports p ys) : xs = ys := by
  obtain ⟨found, rfl, members, ordered⟩ := report
  obtain ⟨found', rfl, members', ordered'⟩ := report'
  rw [List.pairwise_map] at ordered ordered'
  have nodup {l : List (Site × Defect)} (h : l.Pairwise fun x y => x.1.Before y.1) : l.Nodup :=
    h.imp fun ahead same => (same ▸ ahead).asymm (same ▸ ahead)
  have same : found.Perm found' := (List.perm_ext_iff_of_nodup (nodup ordered) (nodup ordered')).mpr
    fun ⟨s, d⟩ => (members s d).trans (members' s d).symm
  rw [same.eq_of_pairwise (fun x y _ _ ahead behind => (ahead.asymm behind).elim) ordered ordered']

end Reports

/-! ### What is wrong with a world -/

namespace World
variable {w : World}

/-- What is wrong with the item that is declared as number `i`. -/
inductive ItemDefectAt (w : World) (i : Nat) (item : Item) : Site → Defect → Prop where
  | duplicateItem {j : Nat} {other : Item} (earlier : j < i) (declared : w.items[j]? = some other)
      (same : other.name = item.name) : ItemDefectAt w i item (.itemName i) (.duplicateItem item.name)
  | missingItemRoom {id : String} (start : item.start = some (.room id)) (absent : w.room? id = none) :
      ItemDefectAt w i item (.itemStart i) (.missingItemRoom item.name id)

/-- What is wrong with an owner's action number `a`. -/
inductive ActionDefectAt (w : World) (owner : Owner) (scope : Scope) (a : Nat) (action : Action) :
    Site → Defect → Prop where
  | noPhrases (none : action.phrases = []) : ActionDefectAt w owner scope a action (.phrases owner a) (.noPhrases scope)
  | unknownRequirement {k : Nat} {name : String} (required : action.requires[k]? = some name)
      (absent : ∀ item ∈ w.items, item.name ≠ name) :
      ActionDefectAt w owner scope a action (.requirement owner a k) (.unknownRequirement scope action.label name)

/-- What is wrong with a world. -/
inductive DefectAt (w : World) : Site → Defect → Prop where
  | noRooms (none : ∀ id, w.room? id = none) : DefectAt w .rooms .noRooms
  | missingStartRoom (absent : w.room? w.startRoom = none) : DefectAt w .startRoom (.missingStartRoom w.startRoom)
  | missingExitTarget {id : String} {room : Room} {i : Nat} {e : Exit} (found : w.room? id = some room)
      (declared : room.exits[i]? = some e) (absent : w.room? e.target = none) :
      DefectAt w (.exit id i) (.missingExitTarget id e.direction e.target)
  | item {i : Nat} {item : Item} {s : Site} {d : Defect} (declared : w.items[i]? = some item)
      (wrong : w.ItemDefectAt i item s d) : DefectAt w s d
  | roomAction {id : String} {room : Room} {a : Nat} {action : Action} {s : Site} {d : Defect}
      (found : w.room? id = some room) (declared : room.actions[a]? = some action)
      (wrong : w.ActionDefectAt (.room id) (.room id) a action s d) : DefectAt w s d
  | itemAction {i : Nat} {item : Item} {a : Nat} {action : Action} {s : Site} {d : Defect}
      (found : w.items[i]? = some item) (declared : item.actions[a]? = some action)
      (wrong : w.ActionDefectAt (.item i) (.item item.name) a action s d) : DefectAt w s d

theorem hasRoom_eq_false_iff {id : String} : w.hasRoom id = false ↔ w.room? id = none := by
  rw [hasRoom_eq_isSome_room?, Option.isSome_eq_false_iff, Option.isNone_iff_eq_none]

theorem isEmpty_rooms_iff : w.rooms.isEmpty = true ↔ ∀ id, w.room? id = none := by
  rw [Catalog.isEmpty, List.isEmpty_iff, List.eq_nil_iff_forall_not_mem]
  constructor
  · exact fun none id => Option.eq_none_iff_forall_ne_some.mpr fun room found => none room (Catalog.get?_eq_some_iff.mp found).1
  · exact fun none room member => Option.some_ne_none room (Catalog.get?_eq_some_iff.mpr ⟨member, rfl⟩ ▸ none room.id)

theorem item?_eq_none_iff {name : String} : w.item? name = none ↔ ∀ item ∈ w.items, item.name ≠ name := by
  simp [item?]

/-! ### The checks -/

theorem ItemDefectAt.under {i : Nat} {item : Item} {s : Site} {d : Defect} (wrong : w.ItemDefectAt i item s d) :
    s.Under 3 "" [i] := by
  rcases wrong with _ | _
  · exact ⟨rfl, rfl, List.prefix_rfl⟩
  · exact ⟨rfl, rfl, List.prefix_append [i] [0]⟩

theorem ActionDefectAt.under {owner : Owner} {scope : Scope} {a : Nat} {action : Action} {s : Site} {d : Defect}
    (wrong : w.ActionDefectAt owner scope a action s d) : s.Under owner.part owner.roomId (owner.path ++ [a]) := by
  rcases wrong with _ | @⟨k, _, _, _⟩
  · exact ⟨rfl, rfl, List.prefix_rfl⟩
  · exact ⟨rfl, rfl, List.prefix_append_right_inj owner.path |>.mpr (List.prefix_append [a] [k])⟩

theorem reports_exitDefects (room : Room) :
    Reports (fun s d => ∃ i e, room.exits[i]? = some e ∧ w.room? e.target = none ∧ s = .exit room.id i ∧
      d = .missingExitTarget room.id e.direction e.target) (w.exitDefects room) := by
  refine (Reports.map_filter (.exit room.id) fun i j less => ?_).congr fun s d => ?_
  · exact .inr ⟨rfl, .inr ⟨rfl, List.cons_lt_cons_iff.mpr (.inl less)⟩⟩
  · simp only [Bool.not_eq_true', hasRoom_eq_false_iff]

theorem reports_exits (w : World) :
    Reports (fun s d => ∃ room ∈ w.rooms.values, ∃ i e, room.exits[i]? = some e ∧ w.room? e.target = none ∧
      s = .exit room.id i ∧ d = .missingExitTarget room.id e.direction e.target)
      (w.rooms.values.flatMap w.exitDefects) := by
  refine .flatMap (fun room _ => reports_exitDefects room) (w.rooms.ascending.imp fun less s d t e => ?_)
  rintro ⟨i, e, -, -, rfl, -⟩ ⟨j, e', -, -, rfl, -⟩
  exact .inr ⟨rfl, .inl less⟩

theorem reports_itemStart (i : Nat) (item : Item) :
    Reports (fun s d => ∃ id, item.start = some (.room id) ∧ w.room? id = none ∧ s = .itemStart i ∧
      d = .missingItemRoom item.name id) (w.itemDefects [] item) := by
  by_cases placed : ∃ id, item.start = some (.room id)
  · obtain ⟨id, start⟩ := placed
    have check : w.itemDefects [] item = if w.hasRoom id then [] else [.missingItemRoom item.name id] := by
      simp [itemDefects, start]
    rw [check]
    refine (Reports.ite_nil (w.hasRoom id) (.itemStart i) (.missingItemRoom item.name id)).congr fun s d => ?_
    simp [start, hasRoom_eq_false_iff]
  · have fine : w.itemDefects [] item = [] :=
      itemDefects_eq_nil_iff.mpr ⟨List.not_mem_nil, fun id start => (placed ⟨id, start⟩).elim⟩
    rw [fine]
    exact .nil fun s d wrong => placed (wrong.imp fun id wrong => wrong.1)

theorem reports_itemDefects {earlier : List String} {i : Nat} {item : Item}
    (names : item.name ∈ earlier ↔ ∃ j < i, ∃ other, w.items[j]? = some other ∧ other.name = item.name) :
    Reports (w.ItemDefectAt i item) (w.itemDefects earlier item) := by
  have checks : w.itemDefects earlier item =
      (if earlier.contains item.name then [.duplicateItem item.name] else []) ++ w.itemDefects [] item := rfl
  rw [checks]
  refine ((Reports.ite (earlier.contains item.name) (.itemName i) (.duplicateItem item.name)).append
    (reports_itemStart i item) ?_).congr fun s d => ?_
  · rintro s d t e ⟨-, rfl, rfl⟩ ⟨id, -, -, rfl, rfl⟩
    exact .inr ⟨rfl, .inr ⟨rfl, List.cons_lt_cons_iff.mpr (.inr ⟨rfl, List.nil_lt_cons ..⟩)⟩⟩
  · rw [List.contains_iff_mem, names]
    constructor
    · rintro (⟨⟨j, earlier, other, declared, same⟩, rfl, rfl⟩ | ⟨id, start, absent, rfl, rfl⟩)
      · exact .duplicateItem earlier declared same
      · exact .missingItemRoom start absent
    · rintro (⟨earlier, declared, same⟩ | ⟨start, absent⟩)
      · exact .inl ⟨⟨_, earlier, _, declared, same⟩, rfl, rfl⟩
      · exact .inr ⟨_, start, absent, rfl, rfl⟩

theorem reports_actionDefects (owner : Owner) (scope : Scope) (a : Nat) (action : Action) :
    Reports (w.ActionDefectAt owner scope a action) (w.actionDefects scope action) := by
  have required : Reports (fun s d => ∃ k name, action.requires[k]? = some name ∧ (w.item? name).isNone = true ∧
      s = .requirement owner a k ∧ d = .unknownRequirement scope action.label name)
      ((action.requires.filter fun name => (w.item? name).isNone).map fun name =>
        .unknownRequirement scope action.label name) :=
    .map_filter (.requirement owner a) fun k k' less => .inr ⟨rfl, .inr ⟨rfl, List.append_left_lt
      (List.cons_lt_cons_iff.mpr (.inr ⟨rfl, List.cons_lt_cons_iff.mpr (.inl less)⟩))⟩⟩
  refine ((Reports.ite action.phrases.isEmpty (.phrases owner a) (.noPhrases scope)).append required
    ?_).congr fun s d => ?_
  · rintro s d t e ⟨-, rfl, rfl⟩ ⟨k, name, -, -, rfl, rfl⟩
    exact .inr ⟨rfl, .inr ⟨rfl, List.append_left_lt (List.cons_lt_cons_iff.mpr (.inr ⟨rfl, List.nil_lt_cons ..⟩))⟩⟩
  · simp only [List.isEmpty_iff, Option.isNone_iff_eq_none, item?_eq_none_iff]
    constructor
    · rintro (⟨none, rfl, rfl⟩ | ⟨k, name, required, absent, rfl, rfl⟩)
      · exact .noPhrases none
      · exact .unknownRequirement required absent
    · rintro (none | ⟨required, absent⟩)
      · exact .inl ⟨none, rfl, rfl⟩
      · exact .inr ⟨_, _, required, absent, rfl, rfl⟩

theorem itemsDefects_eq_flatten (earlier : List String) (items : List Item) :
    w.itemsDefects earlier items =
      (items.mapIdx fun i item => w.itemDefects (((items.take i).map Item.name).reverse ++ earlier) item).flatten := by
  induction items generalizing earlier with
  | nil => rfl
  | cons item items ih =>
    rw [itemsDefects, ih, List.mapIdx_cons, List.flatten_cons]
    simp

theorem reports_itemsDefects (w : World) :
    Reports (fun s d => ∃ i item, w.items[i]? = some item ∧ w.ItemDefectAt i item s d) (w.itemsDefects [] w.items) := by
  rw [itemsDefects_eq_flatten]
  refine .flatten_mapIdx (fun i item declared => reports_itemDefects ?_) fun i j x y s d t e less here there => ?_
  · rw [List.append_nil, List.mem_reverse, List.mem_map]
    simp only [List.mem_iff_getElem?, List.getElem?_take, Option.ite_none_right_eq_some]
    constructor
    · rintro ⟨other, ⟨j, earlier, found⟩, same⟩
      exact ⟨j, earlier, other, found, same⟩
    · rintro ⟨j, earlier, other, found, same⟩
      exact ⟨other, ⟨j, earlier, found⟩, same⟩
  · exact here.under.before [] there.under less

theorem reports_actions (owner : Owner) (scope : Scope) (actions : List Action) :
    Reports (fun s d => ∃ a action, actions[a]? = some action ∧ w.ActionDefectAt owner scope a action s d)
      (actions.flatMap (w.actionDefects scope)) :=
  .flatMap_of_getElem? (fun a action _ => reports_actionDefects owner scope a action)
    fun _ _ _ _ _ _ _ _ less here there => here.under.before owner.path there.under less

theorem reports_roomActions (w : World) :
    Reports (fun s d => ∃ room ∈ w.rooms.values, ∃ a action, room.actions[a]? = some action ∧
      w.ActionDefectAt (.room room.id) (.room room.id) a action s d)
      (w.rooms.values.flatMap fun room => room.actions.flatMap (w.actionDefects (.room room.id))) := by
  refine .flatMap (fun room _ => reports_actions (.room room.id) (.room room.id) room.actions)
    (w.rooms.ascending.imp fun less s d t e => ?_)
  rintro ⟨a, action, -, here⟩ ⟨b, action', -, there⟩
  exact here.under.before_of_roomId there.under less

theorem reports_itemActions (w : World) :
    Reports (fun s d => ∃ i item, w.items[i]? = some item ∧ ∃ a action, item.actions[a]? = some action ∧
      w.ActionDefectAt (.item i) (.item item.name) a action s d)
      (w.items.flatMap fun item => item.actions.flatMap (w.actionDefects (.item item.name))) := by
  refine .flatMap_of_getElem? (fun i item _ => reports_actions (.item i) (.item item.name) item.actions) ?_
  rintro i j item item' s d t e less ⟨a, action, -, here⟩ ⟨b, action', -, there⟩
  exact (here.under.shorten ([] ++ [i])).before [] (there.under.shorten ([] ++ [j])) less

/-- `defects` is a report of what is wrong with the world. -/
theorem reports_defects (w : World) : Reports w.DefectAt w.defects := by
  have rooms := Reports.append_part ⟨.nil fun _ _ => not_false, fun _ _ => False.elim⟩
    (.ite w.rooms.isEmpty .rooms .noRooms) (by rintro s d ⟨-, rfl, -⟩; rfl)
  have startRoom := Reports.append_part rooms
    (.ite_nil (w.hasRoom w.startRoom) .startRoom (.missingStartRoom w.startRoom)) (by rintro s d ⟨-, rfl, -⟩; rfl)
  have exits := Reports.append_part startRoom w.reports_exits (by rintro s d ⟨room, -, i, e, -, -, rfl, -⟩; rfl)
  have items := Reports.append_part exits w.reports_itemsDefects
    (by rintro s d ⟨i, item, -, wrong⟩; exact wrong.under.part_eq)
  have roomActions := Reports.append_part items w.reports_roomActions
    (by rintro s d ⟨room, -, a, action, -, wrong⟩; exact wrong.under.part_eq)
  have itemActions := Reports.append_part roomActions w.reports_itemActions
    (by rintro s d ⟨i, item, -, a, action, -, wrong⟩; exact wrong.under.part_eq)
  refine itemActions.1.congr fun s d => ?_
  simp only [false_or, or_assoc, isEmpty_rooms_iff, Bool.not_eq_true, hasRoom_eq_false_iff]
  constructor
  · rintro (⟨none, rfl, rfl⟩ | ⟨absent, rfl, rfl⟩ | ⟨room, member, i, e, declared, absent, rfl, rfl⟩ |
      ⟨i, item, declared, wrong⟩ | ⟨room, member, a, action, declared, wrong⟩ | ⟨i, item, found, a, action, declared, wrong⟩)
    · exact .noRooms none
    · exact .missingStartRoom absent
    · exact .missingExitTarget (Catalog.get?_eq_some_iff.mpr ⟨member, rfl⟩) declared absent
    · exact .item declared wrong
    · exact .roomAction (Catalog.get?_eq_some_iff.mpr ⟨member, rfl⟩) declared wrong
    · exact .itemAction found declared wrong
  · intro wrong
    cases wrong with
    | noRooms none => exact .inl ⟨none, rfl, rfl⟩
    | missingStartRoom absent => exact .inr (.inl ⟨absent, rfl, rfl⟩)
    | missingExitTarget found declared absent =>
      obtain ⟨member, rfl⟩ := Catalog.get?_eq_some_iff.mp found
      exact .inr (.inr (.inl ⟨_, member, _, _, declared, absent, rfl, rfl⟩))
    | item declared wrong => exact .inr (.inr (.inr (.inl ⟨_, _, declared, wrong⟩)))
    | roomAction found declared wrong =>
      obtain ⟨member, rfl⟩ := Catalog.get?_eq_some_iff.mp found
      exact .inr (.inr (.inr (.inr (.inl ⟨_, member, _, _, declared, wrong⟩))))
    | itemAction found declared wrong => exact .inr (.inr (.inr (.inr (.inr ⟨_, _, found, _, _, declared, wrong⟩))))

theorem defects_eq_nil_iff_forall : w.defects = [] ↔ ∀ site d, ¬w.DefectAt site d := by
  obtain ⟨found, defects, members, -⟩ := w.reports_defects
  rw [← defects, List.map_eq_nil_iff, List.eq_nil_iff_forall_not_mem]
  exact ⟨fun none site d wrong => none (site, d) ((members site d).mpr wrong),
    fun none ⟨site, d⟩ listed => none site d ((members site d).mp listed)⟩

end World

/-- The defects of a world are the one list that reports what is wrong where: each defect once, in the order of the
    places. So nothing is wrong exactly if the list is empty, and exactly then a session can be started. -/
theorem World.defects_eq_iff_reports (w : World) :
    (∀ ds, w.defects = ds ↔ Reports w.DefectAt ds) ∧ (w.defects = [] ↔ ∀ site d, ¬w.DefectAt site d) ∧
      ∀ language, (∃ session, Session.start w language = .ok session) ↔ ∀ site d, ¬w.DefectAt site d := by
  refine ⟨fun ds => ⟨?_, fun report => w.reports_defects.eq report⟩, w.defects_eq_nil_iff_forall, fun language => ?_⟩
  · rintro rfl
    exact w.reports_defects
  · rw [← defects_eq_nil_iff_forall, Session.start]
    split
    · next none => exact iff_of_true ⟨_, rfl⟩ none
    · next some => exact iff_of_false (fun ⟨_, started⟩ => nomatch started) some

example :
    let hall : Room := { Room.ofId "hall" with exits := [⟨"up", "loft", false⟩, ⟨"east", "yard", false⟩] }
    let key : Item := { name := "key", start := some (.room "cave"), actions := [⟨none, [], ["lamp", "key"], none, []⟩] }
    let w : World := { id := "house", startRoom := "cave", rooms := .ofList Room.id [.ofId "yard", hall], items := [key, key] }
    w.defects = [.missingStartRoom "cave", .missingExitTarget "hall" "up" "loft", .missingItemRoom "key" "cave",
      .duplicateItem "key", .missingItemRoom "key" "cave", .noPhrases (.item "key"),
      .unknownRequirement (.item "key") "?" "lamp", .noPhrases (.item "key"),
      .unknownRequirement (.item "key") "?" "lamp"] := by
  decide +kernel

end TextAdventure
