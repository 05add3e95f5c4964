/-
Notices: what the program reports of its own doings while it runs.

Each has a level, the part of the program it comes from, and a message with its
facts written as `field=value`.
-/
import SqlStates.Mode

set_option autoImplicit false

namespace SqlStates

/-- How much a notice matters, from most to least. -/
inductive Level where
  | error
  | warn
  | info
  | debug
  | trace
  deriving DecidableEq

namespace Level

/-- The place of a level, counted from the one that matters most. -/
def rank : Level → Nat
  | error => 1
  | warn => 2
  | info => 3
  | debug => 4
  | trace => 5

/-- The levels, from the one that matters most. -/
def all : List Level := [error, warn, info, debug, trace]

/-- The name of a level, in capitals. -/
def label : Level → Text
  | error => "ERROR".toList
  | warn => "WARN".toList
  | info => "INFO".toList
  | debug => "DEBUG".toList
  | trace => "TRACE".toList

end Level

/-- Something the program did. -/
inductive Notice where
  /-- It set out to read a file. -/
  | reading (path : Text)
  /-- It set out to ask for a URL. -/
  | fetching (url : Text)
  /-- It received a text of so many bytes. -/
  | fetched (bytes : Nat)
  /-- It left out a data line. -/
  | ignoring (line : Repeat)
  /-- It read a catalog to its end. -/
  | parsed (entries duplicates : Nat)
  /-- It set out to write the lines of a catalog. -/
  | rendering (mode : Mode) (entries : Nat)
  /-- It has the lines of a catalog. -/
  | generated (mode : Mode) (entries duplicates : Nat)
  deriving DecidableEq

namespace Notice

/-- How much a notice matters. -/
def level : Notice → Level
  | reading _ => .info
  | fetching _ => .info
  | fetched _ => .debug
  | ignoring _ => .debug
  | parsed _ _ => .debug
  | rendering _ _ => .info
  | generated _ _ _ => .info

/-- The part of the program a notice comes from. -/
def target : Notice → Text
  | reading _ => "errcodes_app::source".toList
  | fetching _ => "errcodes_app::source".toList
  | fetched _ => "errcodes_app::source".toList
  | ignoring _ => "errcodes_parser::catalog".toList
  | parsed _ _ => "errcodes_parser::catalog".toList
  | rendering _ _ => "errcodes_app".toList
  | generated _ _ _ => "errcodes".toList

/-- What a notice says, without its facts. -/
def summary : Notice → Text
  | reading _ => "reading errcodes catalog".toList
  | fetching _ => "fetching errcodes catalog".toList
  | fetched _ => "fetched errcodes catalog".toList
  | ignoring _ => "ignoring duplicate sqlstate".toList
  | parsed _ _ => "parsed errcodes catalog".toList
  | rendering _ _ => "rendering sqlstate catalog".toList
  | generated mode _ _ => "generated sqlstate ".toList ++ mode.name

/-- The facts of a notice, each with the name of its field. -/
def facts : Notice → List (Text × Text)
  | reading path => [("path".toList, path)]
  | fetching url => [("url".toList, url)]
  | fetched bytes => [("bytes".toList, Text.decimal bytes)]
  | ignoring line =>
    [("sqlstate".toList, line.state.text), ("kept".toList, line.kept),
      ("skipped".toList, line.skipped)]
  | parsed entries duplicates =>
    [("entries".toList, Text.decimal entries), ("duplicates".toList, Text.decimal duplicates)]
  | rendering mode entries =>
    [("mode".toList, mode.name), ("entries".toList, Text.decimal entries)]
  | generated _ entries duplicates =>
    [("entries".toList, Text.decimal entries), ("duplicates".toList, Text.decimal duplicates)]

/-- The names of the fields of a notice; what it says is one of them. -/
def fields (n : Notice) : List Text := "message".toList :: n.facts.map Prod.fst

/-- The message of a notice, with its facts. -/
def message (n : Notice) : Text :=
  n.summary ++ n.facts.flatMap fun (field, value) => ' ' :: field ++ '=' :: value

/-- The line a notice is shown as. -/
def line (n : Notice) : Text := n.level.label ++ ' ' :: n.message

/-- The notices of reading a text: one for each repeat, and one for the end if it is reached. -/
def ofReading (r : Reading) : List Notice :=
  r.repeats.map ignoring ++
    match r.failure with
    | some _ => []
    | none => [parsed r.catalog.size r.catalog.duplicates]

end Notice

end SqlStates
