/-
Sets of characters given by the ranges of code points they cover, the form in
which character properties are published.

A small set is a list. A large one is written as a text of ranges in hexadecimal,
with blanks between them, and read once.
-/
import SqlStates.Text.Basic

set_option autoImplicit false

namespace SqlStates

/-- A set of characters: closed ranges of code points, in ascending order. -/
abbrev CharSet := List (Nat × Nat)

namespace CharSet

/-- Whether a character's code point lies in one of the ranges. -/
def has (set : CharSet) (c : Char) : Bool :=
  set.any fun range => decide (range.1 ≤ c.toNat) && decide (c.toNat ≤ range.2)

theorem has_iff {set : CharSet} {c : Char} :
    set.has c = true ↔ ∃ range ∈ set, range.1 ≤ c.toNat ∧ c.toNat ≤ range.2 := by
  simp [CharSet.has]

/-! ## Written sets -/

/-- The number that hexadecimal digits stand for. -/
def number (digits : Text) : Nat :=
  digits.foldl (fun n c => n * 16 + (Text.hexValue? c).getD 0) 0

/-- The range that a word stands for: `300..36F`, or `3B1` for a range of one. -/
def range (word : Text) : Nat × Nat :=
  let low := word.takeWhile (· != '.')
  let high := (word.drop low.length).dropWhile (· == '.')
  (number low, if high.isEmpty then number low else number high)

/-- The pieces of a written table, which spaces and line feeds separate. -/
def pieces (table : String) : List Text :=
  (table.toList.splitOnP fun c => c == ' ' || c == '\n').filter fun piece => !piece.isEmpty

/-- The set that a text of ranges stands for. -/
def ofString (table : String) : CharSet := (pieces table).map range

end CharSet

end SqlStates
