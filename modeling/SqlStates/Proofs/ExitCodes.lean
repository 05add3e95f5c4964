/-
Exit codes: the first stage that fails decides.

A command line that names a mode is carried out in three stages, which fetch a text, read
it as a catalog and hand over the rendering. The rendering is made in memory, in a sink
without a limit, so making it cannot fail and nothing has been handed over before. `Ended`
lists the four ways the program can end, each with its cause and all that it leaves behind,
and every run ends in one of them (`ended_execute`). The exit code tells them apart, and the
causes exclude each other, so the code says exactly which stage has failed.
-/
import SqlStates.Program
import SqlStates.Proofs.FileWriting
import SqlStates.Proofs.Outcome

set_option autoImplicit false

namespace SqlStates

/-! ## Rendering in memory -/

/-- A sink without a limit has the whole rendering of a catalog in it. -/
theorem Run.ofFetched_unbounded (mode : Mode) {fetched : Fetched} {text : Text} {k : Catalog}
    (h : fetched.result = .ok text) (hparse : Catalog.parse text = .ok k) :
    (ofFetched mode Sink.unbounded fetched).result = .ok k.summary
      ∧ (ofFetched mode Sink.unbounded fetched).sink.held = Utf8.encode (mode.render k) := by
  have htakes : Sink.unbounded.Takes (Utf8.encode (mode.render k)).length := by
    rw [Sink.Takes, Sink.fits_of_unlimited rfl]
  obtain ⟨hresult, hsink⟩ := ofFetched_of_ok mode Sink.unbounded h hparse
  rw [hresult, hsink, Sink.pour_of_takes htakes]
  refine ⟨rfl, ?_⟩
  rw [Sink.put, htakes.fits_eq, List.take_length]
  rfl

/-! ## The destination -/

/-- The error of lines that were refused: it is about the path of the output, if there is one. -/
def OutputError.ofFault (output : Option Text) (fault : FileError) : OutputError :=
  match output with
  | some path => .file path fault
  | none => .stdout fault

namespace Surroundings

/-- The path that lines are written to: that of the output, else the one that standard output leads
to. With neither the lines are printed. -/
def destination? (around : Surroundings) (output : Option Text) : Option Text :=
  output <|> around.stdoutPath

/-- Whether lines are refused where they are to go. -/
def Refuses (around : Surroundings) (output : Option Text) (content : Bytes) : Prop :=
  ∃ path fault, around.destination? output = some path
    ∧ around.files.write path content = .error fault

/-- Handing bytes over is writing them to the destination; with none they are printed, and no file
has a part in it. -/
theorem deliver_eq (around : Surroundings) (output : Option Text) (content : Bytes) :
    around.deliver output content =
      match around.destination? output with
      | none => .ok (content, around.files)
      | some path =>
        match around.files.write path content with
        | .error fault => .error (.ofFault output fault)
        | .ok files => .ok ([], files) := by
  cases output with
  | some path => rfl
  | none =>
    unfold deliver print destination?
    cases around.stdoutPath with
    | none => rfl
    | some path =>
      -- a fault on the way to standard output is no fault of a path that was given
      cases hwrite : around.files.write path content with
      | error fault => simp [hwrite, OutputError.ofFault]
      | ok files => simp [hwrite]

end Surroundings

/-! ## The ways to end -/

/-- Whether a line is the last one on standard error. -/
def Complaint.EndsWith (complaint : Complaint) (line : Text) : Prop :=
  ∃ shown, complaint = .lines (shown ++ [line])

namespace Program

/-- What fetching the source of a command line comes to. -/
def fetched (found : Surroundings) (c : CommandLine) : Fetched :=
  (c.source found.environment).fetch found.files found.network

/-- The bytes of the lines for a catalog. -/
def rendering (c : CommandLine) (k : Catalog) : Bytes := Utf8.encode (c.mode.render k)

/-- What a failure leaves behind: its exit code and its report, an empty standard output, and the
files as they were found. -/
structure Leaves (found : Surroundings) (outcome : Outcome) (exit : ExitCode) (report : Text) :
    Prop where
  exit_eq : outcome.exit = exit
  stdout_eq : outcome.stdout = .bytes []
  files_eq : outcome.files = found.files
  reports : outcome.stderr.EndsWith ("error: ".toList ++ report)

/-- The four ways in which the program can end that does what a command line asks for, each with its
cause. -/
inductive Ended (found : Surroundings) (c : CommandLine) (outcome : Outcome) : Prop where
  /-- The source could not be fetched. -/
  | unfetched (e : FetchError) (fetch : (fetched found c).result = .error e)
      (leaves : Leaves found outcome .fetch e.message)
  /-- The text that was fetched is no catalog. -/
  | malformed (text : Text) (e : FormatError) (fetch : (fetched found c).result = .ok text)
      (parse : Catalog.parse text = .error e)
      (leaves : Leaves found outcome .format ("malformed errcodes catalog: ".toList ++ e.message))
  /-- The rendering was refused. -/
  | refused (text : Text) (k : Catalog) (path : Text) (fault : FileError)
      (fetch : (fetched found c).result = .ok text) (parse : Catalog.parse text = .ok k)
      (goes : found.destination? c.output = some path)
      (write : found.files.write path (rendering c k) = .error fault)
      (leaves : Leaves found outcome .output (OutputError.ofFault c.output fault).message)
  /-- The rendering was printed. -/
  | printed (text : Text) (k : Catalog) (fetch : (fetched found c).result = .ok text)
      (parse : Catalog.parse text = .ok k) (goes : found.destination? c.output = none)
      (exit_eq : outcome.exit = .success) (stdout_eq : outcome.stdout = .bytes (rendering c k))
      (files_eq : outcome.files = found.files)
  /-- The rendering was written to a path. -/
  | written (text : Text) (k : Catalog) (path : Text)
      (fetch : (fetched found c).result = .ok text) (parse : Catalog.parse text = .ok k)
      (goes : found.destination? c.output = some path)
      (write : found.files.write path (rendering c k) = .ok outcome.files)
      (holds : found.files.Written path (rendering c k) outcome.files)
      (exit_eq : outcome.exit = .success) (stdout_eq : outcome.stdout = .bytes [])

/-- A failure leaves nothing but its report. -/
theorem leaves_failed (found : Surroundings) (requests : List Request) (shown : List Text)
    (f : Failure) : Leaves found (failed found.files requests shown f) f.exit f.message where
  exit_eq := rfl
  stdout_eq := rfl
  files_eq := rfl
  reports := ⟨shown, rfl⟩

/-- **Every run ends in one of these ways.** -/
theorem ended_execute (found : Surroundings) (c : CommandLine) :
    Ended found c (execute found c) := by
  -- the source, the mode and the sink are those of the command line
  have hexecute : execute found c
      = finish found c (Run.ofFetched c.mode Sink.unbounded (fetched found c)) := rfl
  rw [hexecute, finish]
  cases hfetch : (fetched found c).result with
  | error e =>
    obtain ⟨hresult, -⟩ := Run.ofFetched_of_fetch_error c.mode Sink.unbounded hfetch
    simp only [hresult]
    exact .unfetched e hfetch (leaves_failed found _ _ (.run (.fetch e)))
  | ok text =>
    cases hparse : Catalog.parse text with
    | error e =>
      obtain ⟨hresult, -⟩ := Run.ofFetched_of_format_error c.mode Sink.unbounded hfetch hparse
      simp only [hresult]
      exact .malformed text e hfetch hparse (leaves_failed found _ _ (.run (.format e)))
    | ok k =>
      obtain ⟨hresult, hheld⟩ := Run.ofFetched_unbounded c.mode hfetch hparse
      -- nothing has left the memory yet, and handing over is all that can still fail
      simp only [hresult, hheld, found.deliver_eq]
      cases hgoes : found.destination? c.output with
      | none => exact .printed text k hfetch hparse hgoes rfl rfl rfl
      | some path =>
        cases hwrite : found.files.write path (Utf8.encode (c.mode.render k)) with
        | error fault =>
          simp only [hwrite]
          exact .refused text k path fault hfetch hparse hgoes hwrite
            (leaves_failed found _ _ (.output (.ofFault c.output fault)))
        | ok files =>
          simp only [hwrite]
          exact .written text k path hfetch hparse hgoes hwrite (FileTree.written_of_write hwrite)
            rfl rfl

/-! ## What the exit code tells -/

/-- The exit code of the program tells how far it has come: which of the stages has failed, every
stage before it having succeeded, or that none has. -/
structure ExitTells (found : Surroundings) (c : CommandLine) (outcome : Outcome) : Prop where
  two_iff : outcome.exit.toNat = 2 ↔ ∃ e, (fetched found c).result = .error e
  three_iff : outcome.exit.toNat = 3 ↔
    ∃ text e, (fetched found c).result = .ok text ∧ Catalog.parse text = .error e
  four_iff : outcome.exit.toNat = 4 ↔
    ∃ text k, (fetched found c).result = .ok text ∧ Catalog.parse text = .ok k
      ∧ found.Refuses c.output (rendering c k)
  zero_iff : outcome.exit.toNat = 0 ↔
    ∃ text k, (fetched found c).result = .ok text ∧ Catalog.parse text = .ok k
      ∧ ¬ found.Refuses c.output (rendering c k)

/-- The causes of the four ends exclude each other, and so do their exit codes. -/
theorem Ended.exitTells {found : Surroundings} {c : CommandLine} {outcome : Outcome}
    (h : Ended found c outcome) : ExitTells found c outcome := by
  -- the exit code decides the left sides and the cause decides the right ones
  cases h with
  | unfetched e fetch leaves =>
    constructor <;> simp [leaves.exit_eq, ExitCode.toNat, fetch]
  | malformed text e fetch parse leaves =>
    constructor <;> simp [leaves.exit_eq, ExitCode.toNat, fetch, parse]
  | refused text k path fault fetch parse goes write leaves =>
    have hrefuses : found.Refuses c.output (rendering c k) := ⟨path, fault, goes, write⟩
    constructor <;> simp [leaves.exit_eq, ExitCode.toNat, fetch, parse, hrefuses]
  | printed text k fetch parse goes exit_eq stdout_eq files_eq =>
    have htakes : ¬ found.Refuses c.output (rendering c k) := by
      simp [Surroundings.Refuses, goes]
    constructor <;> simp [exit_eq, ExitCode.toNat, fetch, parse, htakes]
  | written text k path fetch parse goes write holds exit_eq stdout_eq =>
    have htakes : ¬ found.Refuses c.output (rendering c k) := by
      simp [Surroundings.Refuses, goes, write]
    constructor <;> simp [exit_eq, ExitCode.toNat, fetch, parse, htakes]

/-- **Exit codes and output.** A command line that names a mode ends the program with code 2 exactly
if its source cannot be fetched, with 3 exactly if the text that was fetched is no catalog, with 4
exactly if its destination refuses the rendering, and with 0 otherwise, so a stage that fails is
reported whatever would have become of the later ones. With 0 the rendering has gone to one
destination, and nothing else has changed: the path of the output, if there is one, leads to a file
that holds just the rendering, be it the file that the catalog was read from; otherwise the
rendering is what standard output has received. With the other codes standard output is empty, the
files are what they were, and the last line on standard error is the report of the stage that
failed. -/
theorem run_ends_at_first_failure (around : Surroundings) {arguments : List Text} {c : CommandLine}
    (h : CommandLine.parse arguments = .ok c) :
    ExitTells around.opened c (run around arguments)
      ∧ Ended around.opened c (run around arguments) := by
  have hended : Ended around.opened c (run around arguments) := by
    rw [run, h]
    exact ended_execute around.opened c
  exact ⟨hended.exitTells, hended⟩

/-- A text of one data line. -/
def oneLine : Text := "0A000 E ERRCODE_FEATURE\n".toList

/-- A file with the one line, and nothing else around. -/
def oneLineFile : Surroundings where
  files := ⟨[([['w'], ['f']], .file (Utf8.encode oneLine))], [['w']]⟩
  network := ⟨[], .utf8⟩
  environment := []
  stdoutPath := none

/-- The file is named twice: it is replaced by its own rendering. -/
theorem run_ends_at_first_failure_oneLineFile :
    ∃ outcome,
      run oneLineFile ["enum-values".toList, "--file".toList, ['f'], "-of".toList] = outcome
      ∧ outcome.exit.toNat = 0 ∧ outcome.stdout = .bytes []
      ∧ outcome.files.readBytes ['f'] = .ok (Utf8.encode "feature=466560,\n".toList) := by
  have harguments : CommandLine.parse
      ["enum-values".toList, "--file".toList, ['f'], "-of".toList]
        = .ok ⟨.enumValues, .blank, ⟨none, some ['f'], some ['f'], none, false⟩⟩ := by
    decide +kernel
  obtain ⟨htells, hended⟩ := run_ends_at_first_failure oneLineFile harguments
  have hfetch : (Source.fetch oneLineFile.files oneLineFile.network (.file ['f'])).result
      = .ok oneLine := by decide +kernel
  have hcatalog : ∃ k, Catalog.parse oneLine = .ok k
      ∧ Utf8.encode (Mode.enumValues.render k) = Utf8.encode "feature=466560,\n".toList :=
    ⟨_, Catalog.parse_eq_ok_iff.mpr ⟨by decide +kernel, rfl⟩, by decide +kernel⟩
  obtain ⟨k, hparse, hbytes⟩ := hcatalog
  have hzero : (run oneLineFile
      ["enum-values".toList, "--file".toList, ['f'], "-of".toList]).exit.toNat = 0 := by
    refine htells.zero_iff.mpr ⟨_, k, hfetch, hparse, ?_⟩
    rintro ⟨path, fault, hgoes, hwrite⟩
    cases hgoes
    rw [rendering, hbytes] at hwrite
    have htaken : (oneLineFile.files.write ['f']
        (Utf8.encode "feature=466560,\n".toList)).toBool = true := by decide +kernel
    have hsame : oneLineFile.opened.files = oneLineFile.files := rfl
    rw [hsame] at hwrite
    rw [hwrite] at htaken
    cases htaken
  refine ⟨_, rfl, hzero, ?_⟩
  cases hended with
  | unfetched e fetch leaves => rw [leaves.exit_eq] at hzero; cases hzero
  | malformed text e fetch parse leaves => rw [leaves.exit_eq] at hzero; cases hzero
  | refused text k path fault fetch parse goes write leaves =>
    rw [leaves.exit_eq] at hzero; cases hzero
  | printed text k fetch parse goes exit_eq stdout_eq files_eq => cases goes
  | written text other path fetch parse goes write holds exit_eq stdout_eq =>
    refine ⟨stdout_eq, ?_⟩
    cases goes
    have htext : text = oneLine := Except.ok.inj (fetch.symm.trans hfetch)
    rw [htext, hparse, Except.ok.injEq] at parse
    subst parse
    rw [rendering, hbytes] at holds
    cases holds with
    | kept there leads holds others again reads => exact reads rfl
    | swallowed leads same =>
      obtain ⟨there, node, hplace, hnode⟩ := leads
      cases hplace
      simp at hnode

end Program

end SqlStates
