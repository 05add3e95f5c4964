/-
The program on a host.

A host is the system that the program runs on. What the program asks of it is a short list: the
environment, a file, a URL, and to print. The program is written here over any host, in the order
in which it asks, so what runs on the files and streams of a system is what runs on surroundings
that are given as data (`Scene.play_eq_run`).
-/
import SqlStates.Program

set_option autoImplicit false

namespace SqlStates

/-- What the program asks of the system that it runs on. -/
class Host (m : Type → Type) where
  /-- The variables of the environment with their values. -/
  environment : m (List (Text × Text))
  /-- Reads the bytes at a path. -/
  readBytes : Text → m (Except FileError Bytes)
  /-- Fetches a URL. -/
  fetchUrl : Text → m Fetched
  /-- Writes bytes to a path. -/
  writeBytes : Text → Bytes → m (Except FileError Unit)
  /-- Prints bytes on standard output. -/
  print : Bytes → m (Except FileError Unit)
  /-- Prints the help text on standard output. -/
  printHelp : m Unit
  /-- Prints lines on standard error. -/
  complain : List Text → m Unit
  /-- Prints the usage text on standard error. -/
  complainUsage : m Unit

namespace Host

variable {m : Type → Type} [Monad m] [Host m]

/-- Fetches a source. -/
def fetch : Source → m Fetched
  | .file path => do return Source.ofFile path (FileTree.textOf (← readBytes path))
  | .url asked => fetchUrl asked

/-- Hands bytes to the file at a path, or prints them if there is no path. -/
def deliver (output : Option Text) (content : Bytes) : m (Except OutputError Unit) :=
  match output with
  | some path => do return (← writeBytes path content).mapError (OutputError.file path)
  | none => do return (← print content).mapError OutputError.stdout

/-- Reports a failure. -/
def fail (f : Failure) : m ExitCode := do
  complain [f.line]
  return f.exit

/-- Hands over what a run has generated, if it has succeeded. -/
def finish (c : CommandLine) (run : Run) : m ExitCode :=
  match run.result with
  | .error e => fail (.run e)
  | .ok _ => do
    match ← deliver c.output run.sink.held with
    | .error e => fail (.output e)
    | .ok () => return .success

/-- Does what a command line asks for. -/
def execute (c : CommandLine) : m ExitCode := do
  let settings ← environment
  let fetched ← fetch (c.source settings)
  let run := Run.ofFetched c.mode Sink.unbounded fetched
  complain (Program.shownLines (c.filter settings) (Program.notices c.mode run))
  finish c run

/-- Answers a command line that asks for nothing to be generated. The exit code does not depend on
whether the answer could be printed. -/
def answerStop : Stop → m ExitCode
  | .usage => do
    complainUsage
    return .usage
  | .help => do
    printHelp
    return .success
  | .version => do
    let _ ← print (Utf8.encode versionText)
    return .success

/-- Runs the program with arguments. -/
def run (arguments : List Text) : m ExitCode :=
  match CommandLine.parse arguments with
  | .error stop => answerStop stop
  | .ok c => execute c

end Host

/-! ## Surroundings as a host -/

/-- More bytes on standard output. -/
def Printed.more : Printed → Bytes → Printed
  | bytes before, content => bytes (before ++ content)
  | help, _ => help

/-- More lines on standard error. -/
def Complaint.more : Complaint → List Text → Complaint
  | lines before, list => lines (before ++ list)
  | usage, _ => usage

/-- A run on surroundings while it goes on: how they are by now, and what has been printed and
requested. -/
structure Scene where
  around : Surroundings
  stdout : Printed
  stderr : Complaint
  requests : List Request

namespace Scene

/-- The start of a run: standard output is open, and nothing has been printed. -/
def start (around : Surroundings) : Scene := ⟨around.opened, .bytes [], .lines [], []⟩

/-- Fetches a URL from the network around. -/
def fetchUrl (asked : Text) (scene : Scene) : Fetched × Scene :=
  let fetched := Source.fetchUrl scene.around.network asked
  (fetched, { scene with requests := scene.requests ++ fetched.requests })

/-- Writes bytes to a path. -/
def writeBytes (path : Text) (content : Bytes) (scene : Scene) : Except FileError Unit × Scene :=
  match scene.around.files.write path content with
  | .error fault => (.error fault, scene)
  | .ok files => (.ok (), { scene with around := { scene.around with files := files } })

/-- Prints bytes. -/
def print (content : Bytes) (scene : Scene) : Except FileError Unit × Scene :=
  match scene.around.print content with
  | .error fault => (.error fault, scene)
  | .ok (printed, files) =>
    (.ok (), { scene with
      around := { scene.around with files := files }, stdout := scene.stdout.more printed })

/-- Prints the help text, which is seen unless standard output leads to a path. -/
def printHelp (scene : Scene) : Scene :=
  if scene.around.stdoutPath.isSome then scene else { scene with stdout := .help }

instance : Host (StateM Scene) where
  environment := do return (← get).around.environment
  readBytes path := do return (← get).around.files.readBytes path
  fetchUrl asked := modifyGet (fetchUrl asked)
  writeBytes path content := modifyGet (writeBytes path content)
  print content := modifyGet (print content)
  printHelp := modify printHelp
  complain list := modify fun scene => { scene with stderr := scene.stderr.more list }
  complainUsage := modify fun scene => { scene with stderr := .usage }

/-- What is left behind by a run that ends with an exit code and a scene. -/
def outcome (ended : ExitCode × Scene) : Outcome :=
  ⟨ended.1, ended.2.stdout, ended.2.stderr, ended.2.around.files, ended.2.requests⟩

/-- What the program leaves behind when it is run on surroundings. -/
def play (around : Surroundings) (arguments : List Text) : Outcome :=
  outcome ((Host.run arguments : StateM Scene ExitCode) (start around))

end Scene

end SqlStates
