/-
Which source is read.

A file and a URL can be given on either side of the mode, the environment can hold a URL, and there
is a place where the catalog is published. `Source.named` lists the sources that are named so, those
with the better claim first. The run reads the first of them (`source_is_first_named`), which is to
say the text in the file or what the answers to the URL come to. So a file, once it is named, hides
everything that could have been said of URLs: neither these nor the network have a part in what the
run leaves behind.
-/
import SqlStates.Proofs.Fetching
import SqlStates.Proofs.OptionPlacement

set_option autoImplicit false

namespace SqlStates

open Setting (valueOf)
open CommandLine (Accepted)

/-! ## The sources that are named -/

/-- The sources named by the two rows of a command line and by the environment, in the order of
their claims, and at the end where the catalog is published. A URL in the environment may be
empty. -/
def Source.named (before after : List Setting) (environment : List (Text × Text)) : List Source :=
  (valueOf .file after).toList.map .file ++ (valueOf .file before).toList.map .file
    ++ (valueOf .url after).toList.map .url ++ (valueOf .url before).toList.map .url
    ++ (environment.lookup urlVariable).toList.map .url ++ [published]

/-- The source that is chosen is the first one named. -/
theorem CommandLine.Accepted.head?_named {mode : Mode} {before after : List Setting}
    {arguments : List Text} {c : CommandLine} (h : Accepted mode before after arguments)
    (hc : CommandLine.parse arguments = .ok c) (environment : List (Text × Text)) :
    (Source.named before after environment).head? = some (c.source environment) := by
  rw [h.parse_eq, Except.ok.injEq] at hc
  have hfile : c.file = (valueOf .file after).or (valueOf .file before) := by
    simp [← hc, CommandLine.file, Settings.of]
  have hurl : (c.url <|> environment.lookup urlVariable) = ((valueOf .url after).or
      (valueOf .url before)).or (environment.lookup urlVariable) := by
    simp [← hc, CommandLine.url, Settings.of]
  rw [CommandLine.source, hfile, hurl, Source.named]
  cases valueOf .file after with
  | some path => rfl
  | none =>
    cases valueOf .file before with
    | some path => rfl
    | none =>
      -- no file is named, so it is for the URLs to say
      cases valueOf .url after with
      | some url => rfl
      | none =>
        cases valueOf .url before with
        | some url => rfl
        | none =>
          cases environment.lookup urlVariable with
          | some url => rfl
          | none => rfl

/-! ## Reading a source -/

/-- What it is to read a source. Of a file the text is read, and no request is sent; a URL is asked
for, and the answers are followed. -/
inductive Fetched.Reads (f : Fetched) (files : FileTree) (net : Network) : Source → Prop
  | file {path : Text} : f.notices = [.reading path] → f.requests = [] →
      (∀ text, files.readText path = .ok text → f.result = .ok text) →
      (∀ fault, files.readText path = .error fault → f.result = .error (.read path fault)) →
      f.Reads files net (.file path)
  | url {asked : Text} : f.notices.head? = some (.fetching asked) → f.Follows net asked →
      f.Reads files net (.url asked)

/-- A fetch reads the source that it is for. -/
theorem Source.reads_fetch (files : FileTree) (net : Network) (source : Source) :
    (source.fetch files net).Reads files net source := by
  cases source with
  | file path =>
    exact .file rfl rfl (fun _ => result_fetchFile_of_ok) fun _ => result_fetchFile_of_error
  | url asked => exact .url (head?_notices_fetchUrl net asked) (follows_fetch files net asked)

/-! ## What a run depends on -/

namespace Surroundings

/-- Whether two surroundings have the same files and lead standard output to the same place, and
their environments are the same but for one variable. -/
structure SameBut (except : Text) (around other : Surroundings) : Prop where
  files_eq : around.files = other.files
  stdoutPath_eq : around.stdoutPath = other.stdoutPath
  environment_eq : ∀ name, name ≠ except →
    around.environment.lookup name = other.environment.lookup name

/-- Opening standard output touches the files only. -/
theorem opened_eq (around : Surroundings) :
    around.opened = { around with files := around.opened.files } := by
  unfold opened
  split
  · rfl
  · split
    · rfl
    · rfl

theorem environment_opened (around : Surroundings) :
    around.opened.environment = around.environment := by
  rw [opened_eq]

theorem network_opened (around : Surroundings) : around.opened.network = around.network := by
  rw [opened_eq]

theorem stdoutPath_opened (around : Surroundings) :
    around.opened.stdoutPath = around.stdoutPath := by
  rw [opened_eq]

theorem files_opened_congr {around other : Surroundings} (hfiles : around.files = other.files)
    (hpath : around.stdoutPath = other.stdoutPath) : around.opened.files = other.opened.files := by
  unfold opened
  rw [hpath]
  cases other.stdoutPath with
  | none => exact hfiles
  | some path =>
    simp only [hfiles]
    cases other.files.write path [] with
    | error fault => exact hfiles
    | ok files => rfl

theorem SameBut.opened {except : Text} {around other : Surroundings}
    (h : around.SameBut except other) : around.opened.SameBut except other.opened where
  files_eq := files_opened_congr h.files_eq h.stdoutPath_eq
  stdoutPath_eq := by rw [stdoutPath_opened, stdoutPath_opened, h.stdoutPath_eq]
  environment_eq := by
    rw [environment_opened, environment_opened]
    exact h.environment_eq

/-- Handing over looks at the files and at where standard output leads, and at nothing else. -/
theorem deliver_congr {around other : Surroundings} (hfiles : around.files = other.files)
    (hpath : around.stdoutPath = other.stdoutPath) (output : Option Text) (content : Bytes) :
    around.deliver output content = other.deliver output content := by
  rw [deliver_eq, deliver_eq, destination?, destination?, hfiles, hpath]

end Surroundings

/-- Whether two command lines say the same but for the URL and the timeout. -/
structure CommandLine.SameButUrls (c d : CommandLine) : Prop where
  mode_eq : c.mode = d.mode
  file_eq : c.file = d.file
  output_eq : c.output = d.output
  verbose_eq : c.verbose = d.verbose

/-- A run sends the requests of its source, and no others. -/
theorem Run.requests_ofFetched (mode : Mode) (sink : Sink) (fetched : Fetched) :
    (ofFetched mode sink fetched).requests = fetched.requests := by
  unfold ofFetched
  split
  · rfl
  · split
    · rfl
    · rfl

/-- A file that is named is the source. -/
theorem CommandLine.source_of_file {c : CommandLine} {path : Text} (h : c.file = some path)
    (environment : List (Text × Text)) : c.source environment = .file path := by
  rw [source, h]
  rfl

namespace Program

theorem requests_finish (found : Surroundings) (c : CommandLine) (run : Run) :
    (finish found c run).requests = run.requests := by
  unfold finish
  split
  · rfl
  · dsimp only
    split
    · rfl
    · rfl

/-- What becomes of a run depends on the files and on where standard output leads, on what filter is
in force, and on the mode and the path of the output. -/
theorem finish_congr {found other : Surroundings} {c d : CommandLine} (run : Run)
    (hfiles : found.files = other.files) (hpath : found.stdoutPath = other.stdoutPath)
    (hfilter : c.filter found.environment = d.filter other.environment) (hmode : c.mode = d.mode)
    (houtput : c.output = d.output) : finish found c run = finish other d run := by
  simp only [finish, hfiles, hfilter, hmode, houtput,
    Surroundings.deliver_congr hfiles hpath d.output run.sink.held]

/-- A file that is named is read, and no request is sent for it. -/
theorem execute_of_file (found : Surroundings) {c : CommandLine} {path : Text}
    (h : c.file = some path) :
    execute found c = finish found c
      (Run.ofFetched c.mode Sink.unbounded (Source.fetchFile found.files path)) := by
  simp only [execute, CommandLine.plan, CommandLine.source_of_file h]
  rfl

/-- **The source that is read.** An accepted command line reads the first source that is named: the
file given after the mode, the file given before it, the URL given after the mode, the URL given
before it, the URL in the environment, the place where the catalog is published. What the run works
on is what this source holds, the text in the file or what the answers to the URL come to. If it is
a file, no request is sent, and another accepted command line for the same file that differs in URLs
and the timeout only, run in surroundings that differ in the network and the URL of the environment
only, leaves the same behind. -/
theorem source_is_first_named (around : Surroundings) {arguments : List Text} {c : CommandLine}
    (h : CommandLine.parse arguments = .ok c) :
    (∃ before after, Accepted c.mode before after arguments)
      ∧ (∀ before after, Accepted c.mode before after arguments →
          ∃ source others, Source.named before after around.environment = source :: others
            ∧ (source.fetch around.opened.files around.network).Reads around.opened.files
              around.network source
            ∧ run around arguments = finish around.opened c (Run.ofFetched c.mode Sink.unbounded
              (source.fetch around.opened.files around.network)))
      ∧ ∀ path, c.file = some path →
          ∀ (other : Surroundings) (arguments' : List Text) (d : CommandLine),
          CommandLine.parse arguments' = .ok d → c.SameButUrls d →
          around.SameBut urlVariable other →
          run around arguments = run other arguments'
            ∧ (run around arguments).requests = [] ∧ (run other arguments').requests = [] := by
  refine ⟨?_, ?_, ?_⟩
  · obtain ⟨before, after, haccepted, -⟩ := CommandLine.parse_eq_ok_iff.mp h
    exact ⟨before, after, haccepted⟩
  · intro before after haccepted
    have hhead := haccepted.head?_named h around.environment
    obtain ⟨others, hnamed⟩ := List.head?_eq_some_iff.mp hhead
    refine ⟨_, others, hnamed, Source.reads_fetch _ _ _, ?_⟩
    rw [run, h]
    simp only [execute, CommandLine.plan, generate, Surroundings.environment_opened,
      Surroundings.network_opened]
  · intro path hpath other arguments' d hd hsame haround
    have hopened := haround.opened
    have hfilter : c.filter around.opened.environment = d.filter other.opened.environment := by
      rw [CommandLine.filter, CommandLine.filter, hsame.verbose_eq,
        hopened.environment_eq filterVariable (by decide)]
    have hrun : run around arguments = run other arguments' := by
      rw [run, run, h, hd]
      simp only
      rw [execute_of_file _ hpath, execute_of_file _ (hsame.file_eq ▸ hpath), hsame.mode_eq,
        hopened.files_eq]
      exact finish_congr _ hopened.files_eq hopened.stdoutPath_eq hfilter hsame.mode_eq
        hsame.output_eq
    have hrequests : (run around arguments).requests = [] := by
      rw [run, h]
      simp only
      rw [execute_of_file _ hpath, requests_finish, Run.requests_ofFetched]
      rfl
    exact ⟨hrun, hrequests, hrun ▸ hrequests⟩

/-- The file with the one line next to another, and an empty URL in the environment. -/
def twoFiles : Surroundings :=
  { oneLineFile with
    files := ⟨[([['w'], ['g']], .file (Utf8.encode "00000 S ERRCODE_OTHER\n".toList)),
      ([['w'], ['f']], .file (Utf8.encode oneLine))], [['w']]⟩
    environment := [(urlVariable, [])] }

/-- The file after the mode hides the file and the URLs that are named elsewhere: it is the one that
is read, and its line is printed. -/
theorem source_is_first_named_hiddenUrls :
    (∃ before after others, Source.named before after twoFiles.environment = .file ['f'] :: others)
      ∧ (Source.fetch twoFiles.files twoFiles.network (.file ['f'])).result = .ok oneLine
      ∧ (run twoFiles ["--file=g".toList, "--url".toList, "u".toList, "enum-values".toList,
        "--file=f".toList]).stdout = .bytes (Utf8.encode "feature=466560,\n".toList)
      ∧ run twoFiles ["--file=g".toList, "--url".toList, "u".toList, "enum-values".toList,
          "--file=f".toList]
        = run { twoFiles with environment := [] }
          ["enum-values".toList, "--file=f".toList, "--timeout=9".toList]
      ∧ (run twoFiles ["--file=g".toList, "--url".toList, "u".toList, "enum-values".toList,
        "--file=f".toList]).requests = [] := by
  have harguments : CommandLine.parse ["--file=g".toList, "--url".toList, "u".toList,
      "enum-values".toList, "--file=f".toList]
      = .ok ⟨.enumValues, ⟨some ['u'], some ['g'], none, none, false⟩,
        ⟨none, some ['f'], none, none, false⟩⟩ := by
    decide +kernel
  have hothers : CommandLine.parse ["enum-values".toList, "--file=f".toList, "--timeout=9".toList]
      = .ok ⟨.enumValues, .blank, ⟨none, some ['f'], none, some 9, false⟩⟩ := by
    decide +kernel
  have haround : twoFiles.SameBut urlVariable { twoFiles with environment := [] } := by
    refine ⟨rfl, rfl, ?_⟩
    intro name hne
    have hlookup : ([(urlVariable, [])] : List (Text × Text)).lookup name = none := by
      rw [List.lookup_cons, beq_eq_false_iff_ne.mpr hne]
      rfl
    exact hlookup
  obtain ⟨⟨before, after, haccepted⟩, hread, hhides⟩ := source_is_first_named twoFiles harguments
  obtain ⟨source, others, hnamed, hreads, hfinish⟩ := hread before after haccepted
  have hsource : source = .file ['f'] := by
    have hhead := haccepted.head?_named harguments twoFiles.environment
    rw [hnamed] at hhead
    exact Option.some.inj hhead
  subst hsource
  obtain ⟨hrun, hrequests, -⟩ := hhides ['f'] rfl { twoFiles with environment := [] } _ _ hothers
    ⟨rfl, rfl, rfl, rfl⟩ haround
  refine ⟨⟨before, after, others, hnamed⟩, ?_, ?_, hrun, hrequests⟩
  · cases hreads with
    | file _ _ htext _ => exact htext oneLine (by decide +kernel)
  · rw [hfinish]
    decide +kernel

end Program

end SqlStates
