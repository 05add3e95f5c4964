/-
Categories of SQLSTATE codes.

The category of a code is made in two ways at once: the number is rounded down to a
multiple of the width of a class, and the digits of the subclass are written over with
zeros. `value_category` and `text_category` say what either comes to, and everything
else is read off one of the two, whichever is shorter. In the order of codes, a category is
the first code of its class, so taking the category is rounding down: to the greatest
category that is not after the code.
-/
import Mathlib.Order.Bounds.Defs
import SqlStates.Proofs.CodeOrder

set_option autoImplicit false

namespace SqlStates.SqlState

/-! ## Number and text of a category -/

theorem value_category (s : SqlState) : s.category.value = s.value / 36 ^ 3 * 36 ^ 3 := by
  have hwidth : Digit.weight 3 = 36 ^ 3 := rfl
  rw [category, value, toNat_sub_mod, hwidth, Nat.div_mul_self_eq_mod_sub_self, value]

theorem text_category (s : SqlState) : s.category.text = s.text.take 2 ++ "000".toList := by
  rw [text_eq, category, text_eq, List.map_append, List.map_take]
  rfl

/-! ## Rounding down -/

theorem isCategory_iff {s : SqlState} : s.isCategory = true ↔ s.category = s := decide_eq_true_iff

theorem category_le (s : SqlState) : s.category ≤ s := by
  rw [le_iff_value_le, value_category]
  exact Nat.div_mul_le_self ..

theorem category_mono {s t : SqlState} (h : s ≤ t) : s.category ≤ t.category := by
  rw [le_iff_value_le] at h ⊢
  rw [value_category, value_category]
  exact Nat.mul_le_mul_right _ (Nat.div_le_div_right h)

theorem isCategory_iff_dvd {s : SqlState} : s.isCategory = true ↔ 36 ^ 3 ∣ s.value := by
  rw [isCategory_iff, eq_iff_value_eq, value_category]
  constructor
  · intro h
    exact Dvd.intro_left _ h
  · exact Nat.div_mul_cancel

theorem category_category (s : SqlState) : s.category.category = s.category := by
  -- what has been rounded down is a multiple
  have hdvd : 36 ^ 3 ∣ s.category.value := by
    rw [value_category]
    exact Nat.dvd_mul_left ..
  exact isCategory_iff.mp (isCategory_iff_dvd.mpr hdvd)

/-- **The category of a code is the greatest category up to the code.** One that is not after the
code is its own category, and taking categories keeps the order. -/
theorem isGreatest_category (s : SqlState) :
    IsGreatest {c | c.isCategory = true ∧ c ≤ s} s.category := by
  refine ⟨⟨isCategory_iff.mpr s.category_category, s.category_le⟩, ?_⟩
  rintro c ⟨hc, hle⟩
  rw [← isCategory_iff.mp hc]
  exact category_mono hle

/-! ## Class and subclass -/

/-- A code is a category exactly if it is written with the subclass `000`. -/
theorem isCategory_iff_suffix {s : SqlState} :
    s.isCategory = true ↔ "000".toList <:+ s.text := by
  rw [isCategory_iff, eq_iff_text_eq, text_category]
  constructor
  · intro h
    exact ⟨s.text.take 2, h⟩
  · rintro ⟨front, hfront⟩
    -- five characters, so two before the three zeros
    have hlen : front.length = 2 := by
      have htext := s.length_text
      rw [← hfront, List.length_append] at htext
      exact Nat.add_right_cancel htext
    rw [← hfront, List.take_left' hlen]

/-- Codes have one category exactly if they are of one class. -/
theorem category_eq_iff {s t : SqlState} :
    s.category = t.category ↔ s.text.take 2 = t.text.take 2 := by
  rw [eq_iff_text_eq, text_category, text_category, List.append_left_inj]

/-- **The laws of categories.** The category of a code is what is read from the two characters of
its class with `000` after them, and what is found under its number rounded down to a multiple of
36³. It is the greatest category up to the code; taking it twice is taking it once, and it keeps the
order. A code is a category exactly if it is written with `000` at the end, and exactly if its
number is a multiple of 36³. Two codes have one category exactly if they start with the same two
characters. -/
theorem category_laws (s t : SqlState) :
    parse (s.text.take 2 ++ "000".toList) = .ok s.category
      ∧ (∃ v : UInt32, v.toNat = s.value / 36 ^ 3 * 36 ^ 3 ∧ ofNumber? v = some s.category)
      ∧ IsGreatest {c | c.isCategory = true ∧ c ≤ s} s.category
      ∧ s.category.category = s.category
      ∧ (s ≤ t → s.category ≤ t.category)
      ∧ (s.isCategory = true ↔ "000".toList <:+ s.text)
      ∧ (s.isCategory = true ↔ 36 ^ 3 ∣ s.value)
      ∧ (s.category = t.category ↔ s.text.take 2 = t.text.take 2) := by
  refine ⟨?_, ⟨s.category.number, s.value_category, ofNumber?_number _⟩, s.isGreatest_category,
    s.category_category, category_mono, isCategory_iff_suffix, isCategory_iff_dvd, category_eq_iff⟩
  rw [← text_category]
  exact parse_text s.category

end SqlStates.SqlState
