import TextAdventure.Catalog
import Mathlib.Data.String.Basic

/-! The order of texts. Texts compare by code point, and this is the order of their bytes in UTF-8: of two
    characters the one with the smaller code point has the smaller bytes, whatever follows them
    (`utf8EncodeChar_append_lt`). So catalogs are in ascending order of bytes, too. -/

namespace TextAdventure.Text

/-- The bytes of a text in UTF-8. -/
def bytes (s : String) : List UInt8 := s.toUTF8.data.toList

theorem bytes_eq_flatMap (s : String) : bytes s = s.toList.flatMap String.utf8EncodeChar := by
  conv => lhs; rw [← String.ofList_toList (s := s)]
  rw [bytes, String.toUTF8_eq_toByteArray, String.toByteArray_ofList, List.utf8Encode]
  simp

/-! ### One character -/

theorem toNat_val_lt (c : Char) : c.val.toNat < 0x110000 := by
  rcases c.valid with low | ⟨-, high⟩
  · omega
  · exact high

/-- The first byte tells how many there are, and each byte holds a digit of the code point. -/
theorem utf8EncodeChar_append_lt {c d : Char} (less : c < d) (xs ys : List UInt8) :
    String.utf8EncodeChar c ++ xs < String.utf8EncodeChar d ++ ys := by
  have smaller : c.val.toNat < d.val.toNat := less
  have bounded := toNat_val_lt d
  unfold String.utf8EncodeChar
  generalize c.val.toNat = m at smaller
  generalize d.val.toNat = n at smaller bounded
  -- Where both take four bytes, it matters whether the last two digits have to decide.
  rcases (Nat.div_le_div_right (c := 4096) smaller.le).lt_or_eq with high | low
  all_goals
    dsimp only
    split_ifs
  all_goals try omega
  all_goals
    simp only [List.cons_append, List.nil_append, List.cons_lt_cons_iff, UInt8.lt_iff_toNat_lt, ← UInt8.toNat_inj,
      UInt8.toNat_ofNat']
    omega

/-! ### Texts -/

theorem flatMap_utf8EncodeChar_lt {cs ds : List Char} (less : cs < ds) :
    cs.flatMap String.utf8EncodeChar < ds.flatMap String.utf8EncodeChar := by
  induction cs generalizing ds with
  | nil =>
    cases ds with
    | nil => exact absurd less (List.not_lt_nil _)
    | cons d ds =>
      obtain ⟨b, bs, first⟩ := List.exists_cons_of_ne_nil (String.utf8EncodeChar_ne_nil (c := d))
      rw [List.flatMap_nil, List.flatMap_cons, first]
      exact List.nil_lt_cons b _
  | cons c cs ih =>
    cases ds with
    | nil => exact absurd less (List.not_lt_nil _)
    | cons d ds =>
      rw [List.flatMap_cons, List.flatMap_cons]
      rcases List.cons_lt_cons_iff.mp less with first | ⟨rfl, rest⟩
      · exact utf8EncodeChar_append_lt first _ _
      · exact List.append_left_lt (ih rest)

theorem bytes_lt_of_lt {s t : String} (less : s < t) : bytes s < bytes t := by
  rw [bytes_eq_flatMap, bytes_eq_flatMap]
  exact flatMap_utf8EncodeChar_lt (String.lt_iff_toList_lt.mp less)

/-- Code points and bytes put texts in the same order. -/
theorem lt_iff_bytes_lt {s t : String} : s < t ↔ bytes s < bytes t := by
  constructor
  · exact bytes_lt_of_lt
  · intro less
    by_contra notLess
    by_cases same : s = t
    · exact List.lt_irrefl _ (same ▸ less)
    · exact List.lt_asymm less (bytes_lt_of_lt (Catalog.lt_of_not_lt_of_ne notLess same))

end TextAdventure.Text
