/-
Blank characters, and the words they separate.

A character is blank when it has the property `White_Space`; there are
twenty-five. `trim` takes the blanks off both ends of a text and `words` cuts it
at every run of blanks, so no word is empty and no word holds a blank.
-/
import SqlStates.Text.CharSet

set_option autoImplicit false

namespace SqlStates.Text

/-- The characters with the property `White_Space`. -/
def blanks : CharSet :=
  [(0x09, 0x0D), (0x20, 0x20), (0x85, 0x85), (0xA0, 0xA0), (0x1680, 0x1680), (0x2000, 0x200A),
   (0x2028, 0x2029), (0x202F, 0x202F), (0x205F, 0x205F), (0x3000, 0x3000)]

/-- Whether a character separates words. -/
def isBlank (c : Char) : Bool := blanks.has c

/-- The text without the blanks at its start and at its end. -/
def trim (t : Text) : Text :=
  ((t.dropWhile isBlank).reverse.dropWhile isBlank).reverse

/-- The words of a text in order: its longest runs of characters that are not blank. -/
def words (t : Text) : List Text :=
  (t.splitOnP isBlank).filter fun piece => !piece.isEmpty

/-! ## Small facts -/

theorem words_nil : words [] = [] := by
  simp [words]

/-- A word has at least one character. -/
theorem ne_nil_of_mem_words {t w : Text} (h : w ∈ words t) : w ≠ [] := by
  simp only [words, List.mem_filter, Bool.not_eq_true', List.isEmpty_eq_false_iff] at h
  exact h.2

end SqlStates.Text
