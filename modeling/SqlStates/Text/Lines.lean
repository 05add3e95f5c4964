/-
The lines of a text.

A line ends at a line feed, at a carriage return, or at the two together, which
are one break. The text is cut at its line feeds first; a carriage return that
ends a piece belongs to the break after it, and each one left inside a piece is a
break of its own. A carriage return at the very end of the text therefore opens
no further line, while a line feed there opens an empty one.
-/
import SqlStates.Text.Basic

set_option autoImplicit false

namespace SqlStates.Text

/-- The text without the carriage return at its end, if there is one; of several, one. -/
def dropReturn (piece : Text) : Text :=
  if piece.getLast? = some '\r' then piece.dropLast else piece

/-- The lines of a text in order, without the characters that end them. -/
def lines (t : Text) : List Text :=
  (t.splitOn '\n').flatMap fun piece => (dropReturn piece).splitOn '\r'

end SqlStates.Text
