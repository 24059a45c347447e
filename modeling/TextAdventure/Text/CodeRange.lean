/-! Sets of characters written as ranges of code points. -/

namespace TextAdventure.Text

/-- A range of code points, its first and its last one. -/
abbrev CodeRange := Nat × Nat

/-- The code point `n` lies in one of `ranges`, which are in ascending order. -/
def covered : List CodeRange → Nat → Bool
  | [], _ => false
  | (first, last) :: ranges, n => if n < first then false else n ≤ last || covered ranges n

/-- A code point that is covered lies in one of the ranges. -/
theorem exists_range_of_covered {ranges : List CodeRange} {n : Nat} (h : covered ranges n = true) :
    ∃ r ∈ ranges, r.1 ≤ n ∧ n ≤ r.2 := by
  induction ranges with
  | nil => simp [covered] at h
  | cons r ranges ih =>
    obtain ⟨first, last⟩ := r
    unfold covered at h
    split at h
    · contradiction
    · rcases Bool.or_eq_true _ _ ▸ h with hle | hin
      · exact ⟨(first, last), by simp, by omega, by simpa using hle⟩
      · obtain ⟨r, hr, hn⟩ := ih hin
        exact ⟨r, by simp [hr], hn⟩

/-- No range of `xs` meets one of `ys`. -/
def apart (xs ys : List CodeRange) : Bool := xs.all fun x => ys.all fun y => x.2 < y.1 || y.2 < x.1

theorem lt_or_lt_of_apart {xs ys : List CodeRange} (h : apart xs ys = true) {x y : CodeRange} (hx : x ∈ xs)
    (hy : y ∈ ys) : x.2 < y.1 ∨ y.2 < x.1 := by
  simpa using List.all_eq_true.mp (List.all_eq_true.mp h x hx) y hy

/-- A code point is covered by at most one of two sets that lie apart. -/
theorem not_covered_of_apart {xs ys : List CodeRange} {n : Nat} (h : apart xs ys = true)
    (hx : covered xs n = true) : covered ys n = false := by
  rw [Bool.eq_false_iff]
  intro hy
  obtain ⟨x, hxs, hx₁, hx₂⟩ := exists_range_of_covered hx
  obtain ⟨y, hys, hy₁, hy₂⟩ := exists_range_of_covered hy
  have := lt_or_lt_of_apart h hxs hys
  omega

end TextAdventure.Text
