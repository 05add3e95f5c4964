/-
One data line of a catalog.

A data line is a row of words: a code, a severity, a label that starts with
`ERRCODE_`, and then, if there is one, a condition name. Further words say
nothing. A line can fail in three ways, and the words are judged from the left:
too few of them, a first word that is no code, a third without the marker.
-/
import SqlStates.SqlState
import SqlStates.Text.Blank
import SqlStates.Text.LowerCase

set_option autoImplicit false

namespace SqlStates

/-- How grave a condition is. -/
inductive Severity where
  | error
  | warning
  | success
  /-- Any other word, kept as it stands. -/
  | other (token : Text)
  deriving DecidableEq

/-- The severity that a word names: `E`, `W` and `S` have names of their own. -/
def Severity.ofToken (token : Text) : Severity :=
  if token = ['E'] then .error
  else if token = ['W'] then .warning
  else if token = ['S'] then .success
  else .other token

/-- What a data line says. -/
structure Entry where
  state : SqlState
  severity : Severity
  /-- The label in lower case, without its marker. -/
  name : Text
  condition : Option Text
  deriving DecidableEq

/-- Why a line is no data line. -/
inductive LineFault where
  /-- It has only `found` words. -/
  | tooFewFields (found : Nat)
  /-- Its first word is not a code. -/
  | badCode (error : CodeError)
  /-- Its third word does not start with the marker. -/
  | missingMarker (label : Text)
  deriving DecidableEq

namespace LineFault

/-- The error of a line that is no data line. -/
def toError : LineFault → Error
  | tooFewFields found => .tooFewFields found
  | badCode error => error.toError
  | missingMarker label => .missingMarker label

/-- The report of a line that is no data line. -/
def message (f : LineFault) : Text := f.toError.message

end LineFault

namespace Entry

/-- The marker that every label starts with. -/
def marker : Text := ['E', 'R', 'R', 'C', 'O', 'D', 'E', '_']

/-- The number an entry is filed under. -/
def key (e : Entry) : Nat := e.state.value

/-- What a row of words says. -/
def ofWords : List Text → Except LineFault Entry
  | code :: severity :: label :: rest =>
    match SqlState.parse code with
    | .error e => .error (.badCode e)
    | .ok state =>
      match marker.isPrefixOf? label with
      | none => .error (.missingMarker label)
      | some name => .ok ⟨state, Severity.ofToken severity, Text.lowerCase name, rest.head?⟩
  | fewer => .error (.tooFewFields fewer.length)

/-- Reads a data line. -/
def parse (line : Text) : Except LineFault Entry := ofWords (Text.words line)

end Entry

end SqlStates
