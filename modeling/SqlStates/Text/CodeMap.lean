/-
Maps of code points to short sequences of code points, given by runs: code points
that follow each other and go to places equally far apart share one entry.

A map is written as a text of runs in hexadecimal, with blanks between them, and
read once. `41..5A=61` sends 0x41 to 0x61, 0x42 to 0x62 and so on, `100..12E/2=101`
does so for every second code point, and `BC=31,2044,34` sends one code point to
three.
-/
import SqlStates.Text.CharSet

set_option autoImplicit false

namespace SqlStates

/-- Every `step`-th code point from `first` to `last`, with what the first goes to. -/
structure CodeRun where
  first : Nat
  last : Nat
  step : Nat
  image : List Nat

namespace CodeRun

/-- Whether a code point belongs to the run. -/
def has (run : CodeRun) (code : Nat) : Bool :=
  decide (run.first ≤ code) && decide (code ≤ run.last) && (code - run.first) % run.step == 0

/-- What a code point of the run goes to: as far on from the image of the first as it is from
the first itself. -/
def goesTo (run : CodeRun) (code : Nat) : List Nat := run.image.map fun n => n + (code - run.first)

/-- The run that a word stands for. -/
def ofWord (word : Text) : CodeRun :=
  let source := word.takeWhile (· != '=')
  let codes := source.takeWhile (· != '/')
  let step := source.drop (codes.length + 1)
  let (first, last) := CharSet.range codes
  ⟨first, last, if step.isEmpty then 1 else CharSet.number step,
    ((word.drop (source.length + 1)).splitOn ',').map CharSet.number⟩

end CodeRun

/-- A map of code points; of two runs with a code point the first counts. -/
abbrev CodeMap := List CodeRun

namespace CodeMap

/-- What a code point goes to, if the map has it. -/
def image? (map : CodeMap) (code : Nat) : Option (List Nat) :=
  (map.find? fun run => run.has code).map fun run => run.goesTo code

/-- The map that a text of runs stands for. -/
def ofString (table : String) : CodeMap := (CharSet.pieces table).map CodeRun.ofWord

end CodeMap

end SqlStates
