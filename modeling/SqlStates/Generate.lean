/-
From a source to generated lines.

The source is fetched, its text is read as a catalog, and the lines for the
catalog are written into a sink. The first step that fails ends the run, and
nothing is written unless the whole catalog was read.
-/
import SqlStates.Source

set_option autoImplicit false

namespace SqlStates

/-- Why no lines, or not all of them, were generated. -/
inductive RunError where
  | fetch (error : FetchError)
  | format (error : FormatError)
  | write (error : WriteError)
  deriving DecidableEq

/-- The report of a run that failed. -/
def RunError.message : RunError → Text
  | fetch error => error.message
  | format error => "malformed errcodes catalog: ".toList ++ error.message
  | write error => "failed to write output: ".toList ++ error.message

/-- The counts of a catalog whose lines were generated. -/
structure Summary where
  entries : Nat
  duplicates : Nat
  deriving DecidableEq

/-- The counts of a catalog. -/
def Catalog.summary (c : Catalog) : Summary := ⟨c.size, c.duplicates⟩

/-- What came of a run. -/
structure Run where
  notices : List Notice
  requests : List Request
  sink : Sink
  result : Except RunError Summary

namespace Run

/-- The result of writing the lines for a catalog. -/
def ofWritten (c : Catalog) : Except WriteError Unit → Except RunError Summary
  | .error e => .error (.write e)
  | .ok () => .ok c.summary

/-- Writes the lines for the catalog in what was fetched into a sink. -/
def ofFetched (mode : Mode) (sink : Sink) (fetched : Fetched) : Run :=
  match fetched.result with
  | .error e => ⟨fetched.notices, fetched.requests, sink, .error (.fetch e)⟩
  | .ok text =>
    let seen := fetched.notices ++ Notice.ofReading (Catalog.read text)
    match Catalog.parse text with
    | .error e => ⟨seen, fetched.requests, sink, .error (.format e)⟩
    | .ok c =>
      let (ended, written) := mode.renderTo c sink
      ⟨seen ++ [.rendering mode c.size], fetched.requests, ended, ofWritten c written⟩

end Run

/-- Fetches a source and writes the lines for its catalog into a sink. -/
def generate (files : FileTree) (net : Network) (source : Source) (mode : Mode) (sink : Sink) :
    Run :=
  Run.ofFetched mode sink (source.fetch files net)

end SqlStates
