/-
Names of hosts with characters beyond ASCII.

A name is brought into one form: each character is replaced by what it stands for,
the whole is composed, and it is cut into labels at its dots. A label that starts with
`xn--` stands for another, which has to be in that form already. The labels are held
to their rules and then written in ASCII, those that need it behind `xn--`.
-/
import SqlStates.Text.Composed
import SqlStates.Url.NameMap
import SqlStates.Url.NameRules
import SqlStates.Url.Punycode

set_option autoImplicit false

namespace SqlStates.Url.Name

/-- What stands before a label written in ASCII that has characters beyond it. -/
def codeMark : Text := "xn--".toList

/-- The greatest number of characters of a label that is written in ASCII. -/
def longestWritten : Nat := 1000

/-- The greatest number of characters behind `xn--` that are read. -/
def longestRead : Nat := 2000

/-- The form of a text that a name is kept in. -/
def normal? (t : Text) : Option Text := (meaningOf? t).map Text.composed

/-- The label behind `xn--`: it has characters beyond ASCII and is in the form it is kept in. -/
def labelOfCode? (code : Text) : Option Text :=
  if !Text.isAscii code || longestRead < code.length then none
  else
    match Punycode.decode? code with
    | none => none
    | some label =>
      if !Text.isAscii label && normal? label == some label then some label else none

/-- The label that a label stands for. -/
def labelOf? (label : Text) : Option Text :=
  match codeMark.isPrefixOf? label with
  | some code => labelOfCode? code
  | none => some label

/-- Whether a label keeps the rules that do not depend on other labels. -/
def isSound (label : Text) : Bool :=
  Text.isAscii label || (!startsWithMark label && label.all isPlain && joinersFit label)

/-- A label in ASCII. -/
def codeOf? (label : Text) : Option Text :=
  if Text.isAscii label then some label
  else if longestWritten < label.length then none
  else some (codeMark ++ Punycode.encode label)

/-- Whether a name is ASCII and no label of it stands for another. -/
def isBasic (t : Text) : Bool :=
  Text.isAscii t
    && ((Text.asciiLower t).splitOn '.').all fun label => !codeMark.isPrefixOf label

/-- Labels as a name in ASCII, if they keep the rules. -/
def ofLabels? (labels : List Text) : Option Text :=
  if labels.all isSound && directionsAgree labels then
    (labels.mapM codeOf?).map fun codes => ['.'].intercalate codes
  else none

/-- A name in ASCII. -/
def toAscii? (t : Text) : Option Text :=
  if isBasic t then some (Text.asciiLower t)
  else (normal? t).bind fun name => ((name.splitOn '.').mapM labelOf?).bind ofLabels?

end SqlStates.Url.Name
