/-
One program on every host.

The program is written over any host, in the order in which it asks for things, and once more as a
function of its surroundings, which is what all else is proved of. Surroundings are a host too, and
on them the two leave the same behind (`Scene.play_eq_run`). So what holds of the function holds of
the program on every host that answers as surroundings do.
-/
import SqlStates.Host
import SqlStates.Proofs.SourceSelection

set_option autoImplicit false

namespace SqlStates

theorem Printed.more_nil (p : Printed) : p.more [] = p := by
  cases p with
  | bytes before => rw [more, List.append_nil]
  | help => rfl

namespace Scene

variable (scene : Scene)

/-! ## Steps -/

/-- One action after another starts on the scene that the first has left. -/
theorem run_bind {α β : Type} (action : StateM Scene α) (next : α → StateM Scene β) :
    (action >>= next) scene = next (action scene).1 (action scene).2 := rfl

theorem run_fetch (source : Source) :
    let fetched := source.fetch scene.around.files scene.around.network
    (Host.fetch source : StateM Scene Fetched) scene
      = (fetched, { scene with requests := scene.requests ++ fetched.requests }) := by
  cases source with
  | file path =>
    -- no request is sent for a file
    have hnone : scene.requests ++ (Source.fetchFile scene.around.files path).requests
        = scene.requests :=
      List.append_nil _
    simp only [Source.fetch, hnone]
    rfl
  | url asked => rfl

/-- What handing over does to a scene. -/
def handOver (output : Option Text) (content : Bytes) : Except OutputError Unit × Scene :=
  match scene.around.deliver output content with
  | .error e => (.error e, scene)
  | .ok (printed, files) =>
    (.ok (), { scene with
      around := { scene.around with files := files }, stdout := scene.stdout.more printed })

theorem run_deliver (output : Option Text) (content : Bytes) :
    (Host.deliver output content : StateM Scene (Except OutputError Unit)) scene
      = scene.handOver output content := by
  cases output with
  | some path =>
    have hsteps : (Host.deliver (some path) content : StateM Scene (Except OutputError Unit)) scene
        = ((writeBytes path content scene).1.mapError (OutputError.file path),
          (writeBytes path content scene).2) := rfl
    rw [hsteps, writeBytes, handOver, Surroundings.deliver]
    cases scene.around.files.write path content with
    | error fault => rfl
    | ok files =>
      simp only [Printed.more_nil]
      rfl
  | none =>
    have hsteps : (Host.deliver none content : StateM Scene (Except OutputError Unit)) scene
        = ((print content scene).1.mapError OutputError.stdout, (print content scene).2) := rfl
    rw [hsteps, print, handOver, Surroundings.deliver]
    cases scene.around.print content with
    | error fault => rfl
    | ok printed => rfl

/-! ## Whole runs -/

/-- The scene of a run that has been made, its notices having been shown. -/
def noticed (found : Surroundings) (c : CommandLine) (run : Run) : Scene where
  around := found
  stdout := .bytes []
  stderr := .lines
    (Program.shownLines (c.filter found.environment) (Program.notices c.mode run))
  requests := run.requests

theorem outcome_finish (found : Surroundings) (c : CommandLine) (run : Run) :
    outcome ((Host.finish c run : StateM Scene ExitCode) (noticed found c run))
      = Program.finish found c run := by
  unfold Host.finish Program.finish
  cases run.result with
  | error e => rfl
  | ok summary =>
    have haround : (noticed found c run).around = found := rfl
    simp only [run_bind, run_deliver, handOver, haround]
    cases found.deliver c.output run.sink.held with
    | error e => rfl
    | ok printed => rfl

theorem outcome_execute (found : Surroundings) (c : CommandLine) :
    outcome ((Host.execute c : StateM Scene ExitCode) ⟨found, .bytes [], .lines [], []⟩)
      = Program.execute found c := by
  let source := c.source found.environment
  have hexecute : Program.execute found c = Program.finish found c
      (Run.ofFetched c.mode Sink.unbounded (source.fetch found.files found.network)) := rfl
  rw [hexecute, ← outcome_finish, noticed, Run.requests_ofFetched, Host.execute]
  simp only [run_bind, run_fetch]
  rfl

theorem outcome_answerStop (around : Surroundings) (stop : Stop) :
    outcome ((Host.answerStop stop : StateM Scene ExitCode) (start around))
      = Program.answerStop around.opened stop := by
  cases stop with
  | usage => rfl
  | help =>
    have hsteps : outcome ((Host.answerStop .help : StateM Scene ExitCode) (start around))
        = outcome (.success, printHelp (start around)) := rfl
    rw [hsteps, printHelp, Program.answerStop, start]
    cases around.opened.stdoutPath with
    | none => rfl
    | some path => rfl
  | version =>
    have hsteps : outcome ((Host.answerStop .version : StateM Scene ExitCode) (start around))
        = outcome (.success, (print (Utf8.encode versionText) (start around)).2) := rfl
    rw [hsteps, print, Program.answerStop, start]
    cases around.opened.print (Utf8.encode versionText) with
    | error fault => rfl
    | ok printed => rfl

/-- **The two programs are one.** Run on surroundings as its host, the program leaves behind what it
does as a function of them. -/
theorem play_eq_run (around : Surroundings) (arguments : List Text) :
    play around arguments = Program.run around arguments := by
  unfold play Host.run Program.run
  cases CommandLine.parse arguments with
  | error stop => exact outcome_answerStop around stop
  | ok c => exact outcome_execute around.opened c

end Scene

end SqlStates
