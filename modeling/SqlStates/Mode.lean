/-
Output modes: the two shapes the lines of a catalog can be written in.

Either mode writes one line for each entry, in catalog order, and ends every line
with a line feed. The lines can be had as one text, or written into a sink as they
are made.
-/
import SqlStates.Catalog
import SqlStates.Sink

set_option autoImplicit false

namespace SqlStates

/-- The shape of the generated lines. -/
inductive Mode where
  /-- `name=number,`, for the body of an enumeration. -/
  | enumValues
  /-- `case sqlstate::name: return "name";`, for a switch from codes to names. -/
  | switchCases
  deriving DecidableEq

/-- A name that no mode has. -/
structure UnknownMode where
  name : Text
  deriving DecidableEq

/-- The error of a name that no mode has. -/
def UnknownMode.toError (e : UnknownMode) : Error := .unknownMode e.name

/-- The report of a name that no mode has. -/
def UnknownMode.message (e : UnknownMode) : Text := e.toError.message

namespace Mode

/-- Every mode, in the order they are listed. -/
def all : List Mode := [enumValues, switchCases]

/-- The name a mode goes by on the command line and in reports. -/
def name : Mode → Text
  | enumValues => "enum-values".toList
  | switchCases => "switch-cases".toList

/-- The mode with a name. -/
def ofName? (name : Text) : Option Mode := all.find? fun mode => mode.name == name

/-- The mode with a name, or the report that there is none. -/
def parse (name : Text) : Except UnknownMode Mode :=
  match ofName? name with
  | some mode => .ok mode
  | none => .error ⟨name⟩

/-- The line for a number and a name. -/
def formatEntry (mode : Mode) (value : Nat) (name : Text) : Text :=
  match mode with
  | enumValues => name ++ '=' :: Text.decimal value ++ [',']
  | switchCases =>
    "case sqlstate::".toList ++ name ++ ": return ".toList ++ name.quoted ++ [';']

/-- The lines for a catalog. -/
def lines (mode : Mode) (c : Catalog) : List Text :=
  c.iter.map fun (key, e) => mode.formatEntry key e.name

/-- The lines for a catalog as one text, a line feed after each. -/
def render (mode : Mode) (c : Catalog) : Text := (mode.lines c).flatMap fun line => line ++ ['\n']

/-- Writes the lines for a catalog into a sink as they are made. -/
def renderTo (mode : Mode) (c : Catalog) (s : Sink) : Sink × Except WriteError Unit :=
  s.writeLines (mode.lines c)

end Mode

end SqlStates
