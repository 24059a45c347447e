/-! A catalog holds values that each carry their own name, at most one for a name, in ascending order of
    the names. Its list is determined by its look-ups (`Catalog.ext_get?`), so a catalog does not
    remember in which order it was filled. -/

namespace TextAdventure

/-- Values in ascending order of their keys, no two under one key. Strings compare by code point,
    which is also the order of their UTF-8 bytes. -/
structure Catalog {α : Type} (key : α → String) where
  values : List α
  ascending : values.Pairwise fun x y => key x < key y

namespace Catalog
variable {α : Type} {key : α → String}

/-- The list with `x` at the place of its key, instead of the value that had this key. -/
def place (key : α → String) (x : α) : List α → List α
  | [] => [x]
  | y :: ys =>
    if key x < key y then x :: y :: ys
    else if key x = key y then x :: ys
    else y :: place key x ys

theorem mem_place {x z : α} {ys : List α} (h : z ∈ place key x ys) : z = x ∨ z ∈ ys := by
  induction ys with
  | nil => simpa [place] using h
  | cons y ys ih =>
    unfold place at h
    split at h
    · simpa using h
    · split at h
      · rcases List.mem_cons.mp h with rfl | h
        · exact Or.inl rfl
        · exact Or.inr (List.mem_cons_of_mem _ h)
      · rcases List.mem_cons.mp h with rfl | h
        · simp
        · rcases ih h with h | h
          · exact Or.inl h
          · exact Or.inr (List.mem_cons_of_mem _ h)

theorem lt_of_not_lt_of_ne {s t : String} (h : ¬s < t) (hne : s ≠ t) : t < s :=
  Decidable.byContradiction fun h' => hne (String.le_antisymm (String.not_lt.mp h') (String.not_lt.mp h))

theorem pairwise_place (x : α) {ys : List α} (h : ys.Pairwise fun a b => key a < key b) :
    (place key x ys).Pairwise fun a b => key a < key b := by
  induction ys with
  | nil => simp [place]
  | cons y ys ih =>
    obtain ⟨hy, hys⟩ := List.pairwise_cons.mp h
    unfold place
    split
    · next hlt =>
      refine List.pairwise_cons.mpr ⟨fun z hz => ?_, h⟩
      rcases List.mem_cons.mp hz with rfl | hz
      · exact hlt
      · exact String.lt_trans hlt (hy z hz)
    · split
      · next heq => exact List.pairwise_cons.mpr ⟨fun z hz => heq ▸ hy z hz, hys⟩
      · next hnlt hne =>
        refine List.pairwise_cons.mpr ⟨fun z hz => ?_, ih hys⟩
        rcases mem_place hz with rfl | hz
        · exact lt_of_not_lt_of_ne hnlt hne
        · exact hy z hz

/-- The catalog without values. -/
def empty : Catalog key := ⟨[], .nil⟩

instance : Inhabited (Catalog key) := ⟨empty⟩

/-- The catalog with `x`, which takes the place of a value with the same key. -/
def insert (c : Catalog key) (x : α) : Catalog key := ⟨place key x c.values, pairwise_place x c.ascending⟩

/-- The catalog with the values of `xs`; of values with one key it holds the last. -/
def insertAll (c : Catalog key) (xs : List α) : Catalog key := xs.foldl insert c

/-- The catalog of the values of `xs`; of values with one key it holds the last. -/
def ofList (key : α → String) (xs : List α) : Catalog key := empty.insertAll xs

/-- The values that satisfy `p`. -/
def filter (c : Catalog key) (p : α → Bool) : Catalog key := ⟨c.values.filter p, c.ascending.filter p⟩

/-- The catalog without the value whose key is `k`. -/
def erase (c : Catalog key) (k : String) : Catalog key := c.filter (key · != k)

/-- The value whose key is `k`. -/
def get? (c : Catalog key) (k : String) : Option α := c.values.find? (key · == k)

/-- A value of the catalog has the key `k`. -/
def contains (c : Catalog key) (k : String) : Bool := (c.get? k).isSome

/-- The number of values. -/
def size (c : Catalog key) : Nat := c.values.length

/-- The catalog has no value. -/
def isEmpty (c : Catalog key) : Bool := c.values.isEmpty

/-! ### Look-ups -/

theorem get?_eq_some_iff {c : Catalog key} {k : String} {x : α} :
    c.get? k = some x ↔ x ∈ c.values ∧ key x = k := by
  obtain ⟨xs, hxs⟩ := c
  unfold get?
  induction xs with
  | nil => simp
  | cons y ys ih =>
    obtain ⟨hy, hys⟩ := List.pairwise_cons.mp hxs
    by_cases hk : key y = k
    · simp only [List.find?_cons, hk, beq_self_eq_true, Option.some.injEq, List.mem_cons]
      refine ⟨fun h => ⟨Or.inl h.symm, h ▸ hk⟩, fun ⟨h, hx⟩ => ?_⟩
      rcases h with rfl | h
      · rfl
      · exact absurd (hk ▸ hx ▸ hy x h) (String.lt_irrefl _)
    · have hbeq : (key y == k) = false := by simpa using hk
      simp only [List.find?_cons, hbeq, List.mem_cons]
      rw [ih hys]
      refine ⟨fun ⟨h, hx⟩ => ⟨Or.inr h, hx⟩, fun ⟨h, hx⟩ => ?_⟩
      rcases h with rfl | h
      · exact absurd hx hk
      · exact ⟨h, hx⟩

theorem get?_key_eq_some_iff {c : Catalog key} {x : α} :
    c.get? (key x) = some x ↔ x ∈ c.values := by
  rw [get?_eq_some_iff, and_iff_left rfl]

theorem nodup_keys (c : Catalog key) : (c.values.map key).Nodup := by
  rw [List.Nodup, List.pairwise_map]
  refine c.ascending.imp fun less same => ?_
  rw [same] at less
  exact String.lt_irrefl _ less

theorem mem_insertAll {c : Catalog key} {xs : List α} {z : α} (h : z ∈ (c.insertAll xs).values) :
    z ∈ c.values ∨ z ∈ xs := by
  induction xs generalizing c with
  | nil => exact Or.inl h
  | cons x xs ih =>
    rcases ih h with h | h
    · rcases mem_place h with rfl | h
      · simp
      · exact Or.inl h
    · exact Or.inr (List.mem_cons_of_mem _ h)

theorem contains_iff {c : Catalog key} {k : String} :
    c.contains k = true ↔ ∃ x ∈ c.values, key x = k := by
  rw [contains, Option.isSome_iff_exists]
  exact ⟨fun ⟨x, h⟩ => ⟨x, get?_eq_some_iff.mp h⟩, fun ⟨x, h⟩ => ⟨x, get?_eq_some_iff.mpr h⟩⟩

theorem find?_place (x : α) (ys : List α) (k : String) :
    (place key x ys).find? (key · == k) = if key x = k then some x else ys.find? (key · == k) := by
  induction ys with
  | nil => by_cases h : key x = k <;> simp [place, h]
  | cons y ys ih =>
    unfold place
    by_cases h : key x = k <;> by_cases hy : key y = k <;> grind

@[simp] theorem get?_empty (k : String) : (empty : Catalog key).get? k = none := rfl

@[simp] theorem get?_insert (c : Catalog key) (x : α) (k : String) :
    (c.insert x).get? k = if key x = k then some x else c.get? k := find?_place x c.values k

/-- Of the values of `xs` with the key `k` the last counts. -/
theorem get?_insertAll (c : Catalog key) (xs : List α) (k : String) :
    (c.insertAll xs).get? k = (xs.findRev? (key · == k)).or (c.get? k) := by
  induction xs generalizing c with
  | nil => rfl
  | cons x xs ih =>
    rw [insertAll, List.foldl_cons, ← insertAll, ih, get?_insert, List.findRev?]
    cases xs.findRev? (key · == k) with
    | some y => rfl
    | none => by_cases h : key x = k <;> simp [h]

theorem get?_ofList (xs : List α) (k : String) : (ofList key xs).get? k = xs.findRev? (key · == k) := by
  rw [ofList, get?_insertAll, get?_empty, Option.or_none]

theorem get?_filter (c : Catalog key) (p : α → Bool) (k : String) :
    (c.filter p).get? k = (c.get? k).filter p := by
  ext x
  rw [get?_eq_some_iff, Option.filter_eq_some_iff, get?_eq_some_iff]
  simp only [filter, List.mem_filter]
  exact ⟨fun ⟨⟨a, b⟩, c⟩ => ⟨⟨a, c⟩, b⟩, fun ⟨⟨a, c⟩, b⟩ => ⟨⟨a, b⟩, c⟩⟩

theorem get?_filter_key (c : Catalog key) (p : String → Bool) (k : String) :
    (c.filter fun x => p (key x)).get? k = if p k then c.get? k else none := by
  rw [get?_filter]
  cases found : c.get? k with
  | none => simp
  | some x =>
    obtain ⟨-, rfl⟩ := get?_eq_some_iff.mp found
    rfl

@[simp] theorem get?_erase (c : Catalog key) (k k' : String) :
    (c.erase k).get? k' = if k = k' then none else c.get? k' := by
  rw [erase, get?_filter]
  cases h : c.get? k' with
  | none => simp
  | some x =>
    obtain ⟨-, rfl⟩ := get?_eq_some_iff.mp h
    by_cases hk : k = key x
    · simp [hk]
    · simp [hk, Ne.symm hk]

theorem eq_of_mem_iff {xs ys : List α} (hxs : xs.Pairwise fun a b => key a < key b)
    (hys : ys.Pairwise fun a b => key a < key b) (h : ∀ z, z ∈ xs ↔ z ∈ ys) : xs = ys := by
  induction xs generalizing ys with
  | nil =>
    cases ys with
    | nil => rfl
    | cons y ys => exact absurd ((h y).mpr (by simp)) (by simp)
  | cons x xs ih =>
    cases ys with
    | nil => exact absurd ((h x).mp (by simp)) (by simp)
    | cons y ys =>
      obtain ⟨hx, hxs'⟩ := List.pairwise_cons.mp hxs
      obtain ⟨hy, hys'⟩ := List.pairwise_cons.mp hys
      have hxy : x = y := by
        rcases List.mem_cons.mp ((h x).mp (by simp)) with e | hin
        · exact e
        · rcases List.mem_cons.mp ((h y).mpr (by simp)) with e | hin'
          · exact e.symm
          · exact absurd (hx y hin') (String.lt_asymm (hy x hin))
      subst hxy
      congr 1
      refine ih hxs' hys' fun z => ?_
      have hz := h z
      simp only [List.mem_cons] at hz
      constructor
      · intro hin
        rcases hz.mp (Or.inr hin) with rfl | h
        · exact absurd (hx z hin) (String.lt_irrefl _)
        · exact h
      · intro hin
        rcases hz.mpr (Or.inr hin) with rfl | h
        · exact absurd (hy z hin) (String.lt_irrefl _)
        · exact h

/-- Two catalogs with the same look-ups are the same. -/
theorem ext_get? {c d : Catalog key} (h : ∀ k, c.get? k = d.get? k) : c = d := by
  have hv : c.values = d.values := eq_of_mem_iff c.ascending d.ascending fun z => by
    have hz := h (key z)
    constructor
    · exact fun hin => (get?_eq_some_iff.mp (hz ▸ get?_eq_some_iff.mpr ⟨hin, rfl⟩)).1
    · exact fun hin => (get?_eq_some_iff.mp (hz ▸ get?_eq_some_iff.mpr ⟨hin, rfl⟩)).1
  cases c
  cases d
  simpa using hv

theorem erase_insert {c : Catalog key} {x : α} (new : c.get? (key x) = none) : (c.insert x).erase (key x) = c := by
  refine ext_get? fun k => ?_
  rw [get?_erase, get?_insert]
  by_cases same : key x = k
  · rw [if_pos same, ← same, new]
  · rw [if_neg same, if_neg same]

theorem insert_erase {c : Catalog key} {x : α} (found : c.get? (key x) = some x) : (c.erase (key x)).insert x = c := by
  refine ext_get? fun k => ?_
  rw [get?_insert, get?_erase]
  by_cases same : key x = k
  · rw [if_pos same, ← same, found]
  · rw [if_neg same, if_neg same]

end Catalog
end TextAdventure
