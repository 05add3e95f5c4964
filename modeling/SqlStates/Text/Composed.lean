/-
Composed texts: of all the ways to write a text with accents, the one with the
fewest code points.

A text is decomposed, marks that may change places are put in the order of their
classes, and then each letter takes in the marks after it that make one code point
with it. Two texts that mean the same have the same composed form.
-/
import SqlStates.Text.Decomposition

set_option autoImplicit false

namespace SqlStates.Text

/-! ## Order -/

/-- Puts a code point at the end of a sequence, given backwards, and before the marks of greater
classes there. -/
def placeMark (code : Nat) : List Nat → List Nat
  | [] => [code]
  | last :: before =>
    if combiningClass code != 0 && combiningClass code < combiningClass last then
      last :: placeMark code before
    else code :: last :: before

/-- The sequence with its marks in the order of their classes; marks of one class keep their
order. -/
def markOrder (codes : List Nat) : List Nat :=
  (codes.foldl (fun before code => placeMark code before) []).reverse

/-! ## Composition -/

/-- The code point that a letter and a mark make together, if there is one. -/
def composite? (letter mark : Nat) : Option Nat :=
  match syllable? letter mark with
  | some syllable => some syllable
  | none =>
    let whole := decomposition letter ++ [mark]
    (composites.find? fun run => run.image == whole).map CodeRun.first

/-- Whether a code point is cut off from the letter before it by the marks between them, given
backwards: one of its own class or a greater one stands in between. -/
def isCutOff (code : Nat) : List Nat → Bool
  | [] => false
  | last :: _ => combiningClass code ≤ combiningClass last

/-- Composes what follows a letter and the marks, given backwards, that it has not taken in. -/
def composeAfter (letter : Nat) (marks : List Nat) : List Nat → List Nat
  | [] => letter :: marks.reverse
  | code :: rest =>
    match if isCutOff code marks then none else composite? letter code with
    | some whole => composeAfter whole marks rest
    | none =>
      if combiningClass code = 0 then letter :: marks.reverse ++ composeAfter code [] rest
      else composeAfter letter (code :: marks) rest

/-- Composes a sequence in the order of its classes; marks at its start have no letter. -/
def compose : List Nat → List Nat
  | [] => []
  | code :: rest =>
    if combiningClass code = 0 then composeAfter code [] rest else code :: compose rest

/-- The composed form of a text. -/
def composed (t : Text) : Text :=
  (compose (markOrder (t.flatMap fun c => decomposition c.toNat))).map Char.ofNat

end SqlStates.Text
