/-
The program: a command line, its surroundings, and what it does to them.

The lines for the catalog are generated in memory first. Only when that has
succeeded are they handed to the file or to standard output, so a run that fails
before leaves both as they were. Every outcome has its exit code; notices and the
report of a failure go to standard error.
-/
import SqlStates.Arguments
import SqlStates.Generate
import SqlStates.LogFilter

set_option autoImplicit false

namespace SqlStates

/-! ## Outcomes -/

/-- How the program ends. -/
inductive ExitCode where
  | success
  | usage
  | fetch
  | format
  | output
  deriving DecidableEq

/-- The number of an exit code. -/
def ExitCode.toNat : ExitCode → Nat
  | success => 0
  | usage => 1
  | fetch => 2
  | format => 3
  | output => 4

/-- What is on standard output, unless that leads to a path. -/
inductive Printed where
  | bytes (content : Bytes)
  /-- The help text. -/
  | help
  deriving DecidableEq

/-- What is on standard error. -/
inductive Complaint where
  | lines (list : List Text)
  /-- The usage text. -/
  | usage
  deriving DecidableEq

/-- What the program finds around it. -/
structure Surroundings where
  files : FileTree
  network : Network
  /-- The variables of the environment with their values. -/
  environment : List (Text × Text)
  /-- The path that standard output leads to, if it leads to one. -/
  stdoutPath : Option Text

/-- What the program leaves behind. -/
structure Outcome where
  exit : ExitCode
  stdout : Printed
  stderr : Complaint
  files : FileTree
  requests : List Request

/-- Why the lines could not be handed over. -/
inductive OutputError where
  | file (path : Text) (fault : FileError)
  | stdout (fault : FileError)
  deriving DecidableEq

/-- The report of lines that could not be handed over. -/
def OutputError.message : OutputError → Text
  | file path fault =>
    "Could not write output file ".toList ++ path ++ ": ".toList ++ fault.message
  | stdout fault => "Could not write to stdout: ".toList ++ fault.message

/-- Why the program failed after its command line was read. -/
inductive Failure where
  | run (error : RunError)
  | output (error : OutputError)
  deriving DecidableEq

namespace Failure

/-- The exit code of a failure. -/
def exit : Failure → ExitCode
  | run (.fetch _) => .fetch
  | run (.format _) => .format
  | run (.write _) => .output
  | output _ => .output

/-- The report of a failure. -/
def message : Failure → Text
  | run error => error.message
  | output error => error.message

/-- The last line on standard error. -/
def line (f : Failure) : Text := "error: ".toList ++ f.message

end Failure

/-! ## Choosing what to do -/

/-- What a run is to do. -/
structure Plan where
  source : Source
  mode : Mode
  /-- The number of seconds a request may take. An answer that comes in time does not depend on
  it. -/
  timeout : Nat
  deriving DecidableEq

/-- The number of seconds a request may take if nothing else is said. -/
def Plan.usualTimeout : Nat := 30

/-- The variable that holds the URL of the catalog if the command line gives none. -/
def urlVariable : Text := "ERRCODES_URL".toList

/-- The variable that holds the filter for notices. -/
def filterVariable : Text := "RUST_LOG".toList

/-- What `--version` prints. -/
def versionText : Text := "errcodes 0.1.0\n".toList

namespace CommandLine

/-- The source a command line asks for: its path, else its URL, else the URL in the environment,
else where the catalog is published. -/
def source (c : CommandLine) (environment : List (Text × Text)) : Source :=
  Source.choose c.file (c.url <|> environment.lookup urlVariable)

/-- What a command line asks for. -/
def plan (c : CommandLine) (environment : List (Text × Text)) : Plan :=
  ⟨c.source environment, c.mode, c.timeout.getD Plan.usualTimeout⟩

/-- The filter for the notices of a run. -/
def filter (c : CommandLine) (environment : List (Text × Text)) : LogFilter :=
  LogFilter.inForce (environment.lookup filterVariable) c.verbose

end CommandLine

/-! ## Handing over -/

namespace Surroundings

/-- Prints bytes: what is then on standard output, and the files. -/
def print (around : Surroundings) (content : Bytes) : Except FileError (Bytes × FileTree) :=
  match around.stdoutPath with
  | none => .ok (content, around.files)
  | some path =>
    match around.files.write path content with
    | .error fault => .error fault
    | .ok files => .ok ([], files)

/-- Hands bytes to the file at a path, or prints them if there is no path. -/
def deliver (around : Surroundings) (output : Option Text) (content : Bytes) :
    Except OutputError (Bytes × FileTree) :=
  match output with
  | some path =>
    match around.files.write path content with
    | .error fault => .error (.file path fault)
    | .ok files => .ok ([], files)
  | none =>
    match around.print content with
    | .error fault => .error (.stdout fault)
    | .ok printed => .ok printed

/-- The surroundings once standard output is open: a file that it leads to is emptied. -/
def opened (around : Surroundings) : Surroundings :=
  match around.stdoutPath with
  | none => around
  | some path =>
    match around.files.write path [] with
    | .error _ => around
    | .ok files => { around with files := files }

end Surroundings

/-! ## Running -/

namespace Program

/-- The end of a run that failed. -/
def failed (files : FileTree) (requests : List Request) (shown : List Text) (f : Failure) :
    Outcome :=
  ⟨f.exit, .bytes [], .lines (shown ++ [f.line]), files, requests⟩

/-- The notices of a run for a mode, with one for its end if it succeeded. -/
def notices (mode : Mode) (run : Run) : List Notice :=
  run.notices ++
    match run.result with
    | .error _ => []
    | .ok summary => [.generated mode summary.entries summary.duplicates]

/-- The notices that a filter shows, as lines. -/
def shownLines (filter : LogFilter) (notices : List Notice) : List Text :=
  (notices.filter filter.shows).map Notice.line

/-- Hands over what a run has generated, and reports. -/
def finish (around : Surroundings) (c : CommandLine) (run : Run) : Outcome :=
  let shown := shownLines (c.filter around.environment) (notices c.mode run)
  match run.result with
  | .error e => failed around.files run.requests shown (.run e)
  | .ok _ =>
    match around.deliver c.output run.sink.held with
    | .error e => failed around.files run.requests shown (.output e)
    | .ok (printed, files) => ⟨.success, .bytes printed, .lines shown, files, run.requests⟩

/-- Does what a command line asks for. -/
def execute (around : Surroundings) (c : CommandLine) : Outcome :=
  let plan := c.plan around.environment
  finish around c
    (generate around.files around.network plan.source plan.mode Sink.unbounded)

/-- Answers a command line that asks for nothing to be generated. -/
def answerStop (around : Surroundings) : Stop → Outcome
  | .usage => ⟨.usage, .bytes [], .usage, around.files, []⟩
  | .help =>
    ⟨.success, if around.stdoutPath.isSome then .bytes [] else .help, .lines [], around.files, []⟩
  | .version =>
    match around.print (Utf8.encode versionText) with
    | .error _ => ⟨.success, .bytes [], .lines [], around.files, []⟩
    | .ok (printed, files) => ⟨.success, .bytes printed, .lines [], files, []⟩

/-- Runs the program with arguments. -/
def run (around : Surroundings) (arguments : List Text) : Outcome :=
  match CommandLine.parse arguments with
  | .error stop => answerStop around.opened stop
  | .ok c => execute around.opened c

end Program

end SqlStates
