/-
Logging never touches the result.

A run makes its notices whatever the filter is, and a filter only takes some of them out of what
is shown. So the exit code, standard output, the files, the requests and the report of a failure
are the same under every filter, and what is shown stands before the report and is a part, in
order, of what the filter `trace` shows, which is everything. A filter is chosen by a variable of
the environment and by a request for details; that a request can be added or taken away without
another change to what the command line says is a matter of the grammar
(`CommandLine.Gives.remove_details`).
-/
import SqlStates.Proofs.SourceSelection

set_option autoImplicit false

namespace SqlStates

open Setting (valueOf Admissible)

/-! ## Filters -/

namespace LogFilter

/-- A filter that is a level shows the notices down to it. -/
theorem shows_atLevel (l : Level) (n : Notice) :
    (atLevel l).shows n = decide (n.level.rank ≤ l.rank) := by
  simp [shows, deciding?, atLevel, Directive.covers, Directive.shows]

/-- The filter that is written `trace`. -/
theorem inForce_trace (details : Bool) : inForce (some "trace".toList) details = atLevel .trace := by
  have hparse : parse? "trace".toList = some (atLevel .trace) := by rfl
  rw [inForce, Option.bind_some, hparse, Option.getD_some]

end LogFilter

/-- No notice is a warning, or matters more than one, and none matters less than the details do. -/
theorem Notice.rank_level (n : Notice) : 3 ≤ n.level.rank ∧ n.level.rank ≤ 4 := by
  have hlevel : n.level = .info ∨ n.level = .debug := by
    cases n <;> simp [Notice.level]
  rcases hlevel with h | h
  · rw [h]
    decide
  · rw [h]
    decide

namespace Program

/-- A filter that shows details shows every notice. -/
theorem shownLines_atLevel {l : Level} (h : Level.debug.rank ≤ l.rank) (ns : List Notice) :
    shownLines (.atLevel l) ns = ns.map Notice.line := by
  have hall : ∀ n ∈ ns, (LogFilter.atLevel l).shows n = true := by
    intro n _
    rw [LogFilter.shows_atLevel]
    exact decide_eq_true (n.rank_level.2.trans h)
  rw [shownLines, List.filter_eq_self.mpr hall]

/-- So does the filter `trace`. -/
theorem shownLines_trace (ns : List Notice) : shownLines (.atLevel .trace) ns = ns.map Notice.line :=
  shownLines_atLevel (by decide) ns

/-- The filter in force if nothing is said shows no notice. -/
theorem shownLines_warn (ns : List Notice) : shownLines (.atLevel .warn) ns = [] := by
  have hnone : ∀ n ∈ ns, ¬ (LogFilter.atLevel .warn).shows n = true := by
    intro n _
    rw [LogFilter.shows_atLevel, decide_eq_true_iff]
    have hrank := n.rank_level.1
    have hwarn : Level.warn.rank = 2 := rfl
    omega
  rw [shownLines, List.filter_eq_nil_iff.mpr hnone, List.map_nil]

/-- Whatever a filter shows, it shows in the order in which it was noticed. -/
theorem shownLines_sublist (filter : LogFilter) (ns : List Notice) :
    (shownLines filter ns).Sublist (ns.map Notice.line) :=
  List.filter_sublist.map Notice.line

/-! ## The end of a run without its notices -/

/-- The report of a run on standard error: a line if it failed, or if its lines were refused. -/
def report (found : Surroundings) (c : CommandLine) (run : Run) : List Text :=
  match run.result with
  | .error e => [(Failure.run e).line]
  | .ok _ =>
    match found.deliver c.output run.sink.held with
    | .error e => [(Failure.output e).line]
    | .ok _ => []

/-- A run has a report exactly if it has failed, and then it is one line. -/
theorem report_cases (found : Surroundings) (c : CommandLine) (run : Run) :
    (finish found c run).exit.toNat = 0 ∧ report found c run = []
      ∨ (finish found c run).exit.toNat ≠ 0
        ∧ ∃ message, report found c run = ["error: ".toList ++ message] := by
  have hexit : ∀ f : Failure, f.exit.toNat ≠ 0 := by
    rintro (⟨_ | _ | _⟩ | e)
    all_goals simp [Failure.exit, ExitCode.toNat]
  unfold finish report
  cases run.result with
  | error e => exact .inr ⟨hexit (.run e), _, rfl⟩
  | ok summary =>
    cases found.deliver c.output run.sink.held with
    | error e => exact .inr ⟨hexit (.output e), _, rfl⟩
    | ok printed => exact .inl ⟨rfl, rfl⟩

/-- Another filter has no part in the end of a run but for what is shown before the report. -/
theorem finish_logged {found other : Surroundings} {c d : CommandLine} (run : Run)
    (hfiles : found.files = other.files) (hpath : found.stdoutPath = other.stdoutPath)
    (hmode : c.mode = d.mode) (houtput : c.output = d.output) :
    finish other d run = { finish found c run with
      stderr := .lines (shownLines (d.filter other.environment) (notices c.mode run)
        ++ report found c run) } := by
  have hdeliver := Surroundings.deliver_congr hfiles hpath d.output run.sink.held
  unfold finish report
  rw [hmode, houtput, hfiles, hdeliver]
  cases run.result with
  | error e => rfl
  | ok summary =>
    simp only
    cases other.deliver d.output run.sink.held with
    | error e => rfl
    | ok printed => simp

end Program

/-! ## One request for details -/

namespace CommandLine

/-- The arguments that are a request for details and nothing else. -/
def detailsFlags : List Text := ["-v".toList, "--verbose".toList]

/-- A request for details is no value. -/
theorem not_isPlain_of_mem_detailsFlags {flag : Text} (h : flag ∈ detailsFlags) :
    ¬ Argument.IsPlain flag := by
  intro hplain
  simp only [detailsFlags, List.mem_cons, List.not_mem_nil, or_false] at h
  rcases h with rfl | rfl
  · cases hplain rfl
  · cases hplain rfl

/-- What follows letters is a value. -/
theorem Letters.isPlain_of_mem {gs : List Setting} {letters : Text} {more : List Text}
    (h : Letters gs letters more) : ∀ t ∈ more, Argument.IsPlain t := by
  induction h with
  | none => simp
  | details _ ih => exact ih
  | apart ht => exact List.forall_mem_singleton.mpr ht
  | joined _ _ => simp
  | equated t => simp

/-- A request for details among the arguments of one spelling is the first of them. -/
theorem Spelled.head?_eq_of_mem {gs : List Setting} {args : List Text} {flag : Text}
    (h : Spelled gs args) (hflag : flag ∈ detailsFlags) (hmem : flag ∈ args) :
    args.head? = some flag := by
  have hplain := not_isPlain_of_mem_detailsFlags hflag
  cases h with
  | @apart o t ht =>
    rw [List.mem_cons, List.mem_singleton] at hmem
    rcases hmem with rfl | rfl
    · rfl
    · exact absurd ht hplain
  | equated o t => rw [List.mem_singleton.mp hmem, List.head?_cons]
  | details => rw [List.mem_singleton.mp hmem, List.head?_cons]
  | letters hletters hne =>
    rcases List.mem_cons.mp hmem with rfl | hmore
    · rfl
    · exact absurd (hletters.isPlain_of_mem _ hmore) hplain

/-- A spelling that starts with a request for details is that request. -/
theorem Spelled.eq_details {gs : List Setting} {flag : Text} {more : List Text}
    (h : Spelled gs (flag :: more)) (hflag : flag ∈ detailsFlags) : gs = [.details] ∧ more = [] := by
  simp only [detailsFlags, List.mem_cons, List.not_mem_nil, or_false] at hflag
  cases h with
  | apart o ht =>
    -- no option with a value has the name that is asked for
    rcases hflag with hname | hname
    · cases hname
    · cases o <;> cases hname
  | equated o t =>
    rcases hflag with hname | hname
    · cases hname
    · cases o <;> cases hname
  | details => exact ⟨rfl, rfl⟩
  | letters hletters hne =>
    rcases hflag with hname | hname
    · cases hname
      cases hletters with
      | details hrest =>
        cases hrest with
        | none => exact ⟨rfl, rfl⟩
    · cases hname
      cases hletters

/-- A spelling with a request for details in it is that request. -/
theorem Spelled.eq_details_of_append {gs : List Setting} {xs ys : List Text} {flag : Text}
    (h : Spelled gs (xs ++ flag :: ys)) (hflag : flag ∈ detailsFlags) :
    gs = [.details] ∧ xs = [] ∧ ys = [] := by
  cases xs with
  | nil =>
    obtain ⟨hgs, hys⟩ := h.eq_details hflag
    exact ⟨hgs, rfl, hys⟩
  | cons x xs =>
    have hhead := h.head?_eq_of_mem hflag (List.mem_append_right _ (List.mem_cons_self ..))
    obtain rfl : x = flag := Option.some.inj hhead
    have hmore := (Spelled.eq_details h hflag).2
    simp at hmore

/-- Where one of the arguments of two rows stands. -/
theorem append_cons_eq_append {xs ys a b : List Text} {t : Text} (h : xs ++ t :: ys = a ++ b) :
    (∃ zs, a = xs ++ t :: zs ∧ ys = zs ++ b) ∨ ∃ zs, xs = a ++ zs ∧ b = zs ++ t :: ys := by
  rcases List.append_eq_append_iff.mp h with ⟨zs, ha, hb⟩ | ⟨zs, hxs, hb⟩
  · cases zs with
    | nil =>
      rw [List.append_nil] at ha
      exact .inr ⟨[], by rw [ha, List.append_nil], hb.symm⟩
    | cons z zs =>
      obtain ⟨rfl, rfl⟩ := List.cons.inj hb
      exact .inl ⟨zs, ha, rfl⟩
  · exact .inr ⟨zs, hxs, hb⟩

/-- **A request for details can be taken out of a row.** What is left is written by the other
arguments. The induction is on the spellings up to that of the request. -/
theorem Writes.remove_details {gs : List Setting} {xs ys : List Text} {flag : Text}
    (h : Writes gs (xs ++ flag :: ys)) (hflag : flag ∈ detailsFlags) :
    ∃ hs, Writes hs (xs ++ ys) ∧ gs.Perm (.details :: hs) := by
  generalize hargs : xs ++ flag :: ys = args at h
  induction h generalizing xs with
  | nil => simp at hargs
  | @cons gs hs a b hspelled hrest ih =>
    rcases append_cons_eq_append hargs with ⟨zs, ha, rfl⟩ | ⟨zs, rfl, hb⟩
    · -- this spelling is the request
      rw [ha] at hspelled
      obtain ⟨rfl, rfl, rfl⟩ := hspelled.eq_details_of_append hflag
      exact ⟨hs, hrest, .refl _⟩
    · obtain ⟨ks, hks, hperm⟩ := ih hb.symm
      refine ⟨gs ++ ks, ?_, ?_⟩
      · rw [List.append_assoc]
        exact .cons hspelled hks
      · exact (hperm.append_left gs).trans List.perm_middle

/-- A request for details can be taken out of a command line, and one of the two rows has one
less. -/
theorem Gives.remove_details {mode : Mode} {before after : List Setting} {xs ys : List Text}
    {flag : Text} (h : Gives mode before after (xs ++ flag :: ys)) (hflag : flag ∈ detailsFlags) :
    (∃ gs, Gives mode gs after (xs ++ ys) ∧ before.Perm (.details :: gs))
      ∨ ∃ gs, Gives mode before gs (xs ++ ys) ∧ after.Perm (.details :: gs) := by
  have hplain := not_isPlain_of_mem_detailsFlags hflag
  generalize hargs : xs ++ flag :: ys = args at h
  cases h with
  | @intro b a ending hb ha hending =>
    rcases append_cons_eq_append hargs with ⟨zs, hbefore, rfl⟩ | ⟨zs, rfl, hrest⟩
    · rw [hbefore] at hb
      obtain ⟨gs, hgs, hperm⟩ := hb.remove_details hflag
      refine .inl ⟨gs, ?_, hperm⟩
      rw [← List.append_assoc]
      exact .intro hgs ha hending
    · cases zs with
      | nil =>
        -- the name of the mode is no request
        obtain ⟨rfl, -⟩ := List.cons.inj hrest
        exact absurd (isPlain_name mode) hplain
      | cons z zs =>
        obtain ⟨rfl, htail⟩ := List.cons.inj hrest
        rcases append_cons_eq_append htail.symm with ⟨ws, hafter, rfl⟩ | ⟨ws, rfl, hend⟩
        · rw [hafter] at ha
          obtain ⟨gs, hgs, hperm⟩ := ha.remove_details hflag
          refine .inr ⟨gs, ?_, hperm⟩
          rw [List.append_assoc, List.cons_append, ← List.append_assoc zs]
          exact .intro hb hgs hending
        · -- nor is a separator
          have hmem : flag ∈ ending := by
            rw [hend]
            exact List.mem_append_right _ (List.mem_cons_self ..)
          simp only [ends, List.mem_cons, List.not_mem_nil, or_false] at hending
          rcases hending with rfl | rfl
          · cases hmem
          · rw [List.mem_singleton.mp hmem] at hflag
            exact absurd hflag (by decide)

end CommandLine

/-- A row with a request for details comes to what the rest of it does, but for the request. -/
theorem Settings.of_cons_details (gs : List Setting) :
    of (.details :: gs) = { of gs with verbose := true } := by
  simp [of, valueOf]

/-- What a row can be taken with, it can be taken without. -/
theorem Setting.Admissible.tail {g : Setting} {gs : List Setting} (h : Admissible (g :: gs)) :
    Admissible gs where
  once := (List.nodup_cons.mp h.once).2
  valid := fun g' hg' => h.valid g' (List.mem_cons_of_mem g hg')

theorem Setting.Admissible.perm {gs hs : List Setting} (h : Admissible gs) (hperm : gs.Perm hs) :
    Admissible hs where
  once := (hperm.map _).nodup_iff.mp h.once
  valid := fun g hg => h.valid g (hperm.mem_iff.mpr hg)

/-- Whether two command lines say the same but for the request for details. -/
structure CommandLine.SameButDetails (c d : CommandLine) : Prop where
  mode_eq : c.mode = d.mode
  url_eq : c.url = d.url
  file_eq : c.file = d.file
  output_eq : c.output = d.output
  timeout_eq : c.timeout = d.timeout

theorem CommandLine.SameButDetails.symm {c d : CommandLine} (h : c.SameButDetails d) :
    d.SameButDetails c where
  mode_eq := h.mode_eq.symm
  url_eq := h.url_eq.symm
  file_eq := h.file_eq.symm
  output_eq := h.output_eq.symm
  timeout_eq := h.timeout_eq.symm

/-- **A command line without one of its requests for details** is accepted, and says the same but
for that request. -/
theorem CommandLine.exists_parse_remove_details {xs ys : List Text} {flag : Text} {c : CommandLine}
    (hflag : flag ∈ detailsFlags) (h : parse (xs ++ flag :: ys) = .ok c) :
    ∃ d, parse (xs ++ ys) = .ok d ∧ c.SameButDetails d := by
  obtain ⟨before, after, ⟨hgives, hbefore, hafter⟩, hof, hof'⟩ := parse_eq_ok_iff.mp h
  rcases hgives.remove_details hflag with ⟨gs, hgs, hperm⟩ | ⟨gs, hgs, hperm⟩
  · have hless : Accepted c.mode gs after (xs ++ ys) := ⟨hgs, (hbefore.perm hperm).tail, hafter⟩
    rw [Settings.of_perm hperm hbefore.once, Settings.of_cons_details] at hof
    refine ⟨_, hless.parse_eq, rfl, ?_, ?_, ?_, ?_⟩
    all_goals simp only [url, file, output, timeout, ← hof, hof']
  · have hless : Accepted c.mode before gs (xs ++ ys) := ⟨hgs, hbefore, (hafter.perm hperm).tail⟩
    rw [Settings.of_perm hperm hafter.once, Settings.of_cons_details] at hof'
    refine ⟨_, hless.parse_eq, rfl, ?_, ?_, ?_, ?_⟩
    all_goals simp only [url, file, output, timeout, hof, ← hof']

/-! ## Two runs under different filters -/

namespace Program

open CommandLine (detailsFlags)

/-- The run that a command line makes in its surroundings. -/
def runOf (found : Surroundings) (c : CommandLine) : Run :=
  generate found.files found.network (c.source found.environment) c.mode Sink.unbounded

/-- A run is the same under every filter. -/
theorem runOf_congr {found other : Surroundings} {c d : CommandLine}
    (hfound : found.SameBut filterVariable other) (hnetwork : found.network = other.network)
    (hsame : c.SameButDetails d) : runOf found c = runOf other d := by
  have hurl : found.environment.lookup urlVariable = other.environment.lookup urlVariable :=
    hfound.environment_eq urlVariable (by decide)
  simp only [runOf, CommandLine.source, hfound.files_eq, hnetwork, hurl, hsame.file_eq, hsame.url_eq,
    hsame.mode_eq]

/-- Under another filter the same is left behind but for what is shown before the report. -/
theorem execute_logged {found other : Surroundings} {c d : CommandLine}
    (hfound : found.SameBut filterVariable other) (hnetwork : found.network = other.network)
    (hsame : c.SameButDetails d) : execute other d = { execute found c with
      stderr := .lines (shownLines (d.filter other.environment) (notices c.mode (runOf found c))
        ++ report found c (runOf found c)) } := by
  have hother : execute other d = finish other d (runOf found c) := by
    rw [runOf_congr hfound hnetwork hsame]
    rfl
  rw [hother]
  exact finish_logged _ hfound.files_eq hfound.stdoutPath_eq hsame.mode_eq hsame.output_eq

/-- **Logging never touches the result.** Of an accepted command line a request for details can be
taken away, and then it says the same but for that request; so it does with a request more, if it is
accepted with that. Another accepted command line that says the same but for the request, in
surroundings with any other filter in the environment, has the same exit code, standard output,
files and requests. On standard error there is the same report at the end, which is nothing on
success and one line on failure. What is shown before it is a part, in order, of what is shown under
`trace`, and nothing if no filter is given and no details are asked for. -/
theorem logging_never_touches_the_result (around : Surroundings) {arguments : List Text}
    {c : CommandLine} (h : CommandLine.parse arguments = .ok c) :
    (∀ flag ∈ detailsFlags, ∀ xs ys, arguments = xs ++ flag :: ys →
        ∃ d, CommandLine.parse (xs ++ ys) = .ok d ∧ c.SameButDetails d)
      ∧ (∀ flag ∈ detailsFlags, ∀ xs ys d, arguments = xs ++ ys →
        CommandLine.parse (xs ++ flag :: ys) = .ok d → c.SameButDetails d)
      ∧ ∃ traced report : List Text,
        ((run around arguments).exit.toNat = 0 ∧ report = []
          ∨ (run around arguments).exit.toNat ≠ 0
            ∧ ∃ message, report = ["error: ".toList ++ message])
        ∧ ∀ (other : Surroundings) (arguments' : List Text) (d : CommandLine),
          around.SameBut filterVariable other → around.network = other.network →
          CommandLine.parse arguments' = .ok d → c.SameButDetails d →
          ∃ shown, run other arguments'
              = { run around arguments with stderr := .lines (shown ++ report) }
            ∧ shown.Sublist traced
            ∧ (other.environment.lookup filterVariable = some "trace".toList → shown = traced)
            ∧ (other.environment.lookup filterVariable = none → d.verbose = false → shown = []) := by
  refine ⟨?_, ?_, ?_⟩
  · rintro flag hflag xs ys rfl
    exact CommandLine.exists_parse_remove_details hflag h
  · rintro flag hflag xs ys d rfl hd
    obtain ⟨e, he, hsame⟩ := CommandLine.exists_parse_remove_details hflag hd
    rw [h, Except.ok.injEq] at he
    rw [he]
    exact hsame.symm
  · have hrun : run around arguments = execute around.opened c := by rw [run, h]
    -- the notices are those of the one run that both command lines make
    let ns := notices c.mode (runOf around.opened c)
    refine ⟨ns.map Notice.line, report around.opened c (runOf around.opened c), ?_, ?_⟩
    · rw [hrun]
      exact report_cases around.opened c (runOf around.opened c)
    · intro other arguments' d haround hnetwork hd hsame
      have hopened : around.opened.network = other.opened.network := by
        rw [Surroundings.network_opened, Surroundings.network_opened, hnetwork]
      refine ⟨shownLines (d.filter other.environment) ns, ?_, shownLines_sublist _ ns, ?_, ?_⟩
      · have hother : run other arguments' = execute other.opened d := by rw [run, hd]
        rw [hother, hrun, execute_logged haround.opened hopened hsame, Surroundings.environment_opened]
      · intro htrace
        rw [CommandLine.filter, htrace, LogFilter.inForce_trace, shownLines_trace]
      · intro hunset hquiet
        rw [CommandLine.filter, hunset, hquiet]
        exact shownLines_warn ns

/-- A file that is not there: the report is alone without a filter and without the request for
details, and the last line under `trace`. -/
theorem logging_never_touches_the_result_missingFile :
    ∃ traced message,
      run oneLineFile ["enum-values".toList, "--file=g".toList]
          = { run oneLineFile ["enum-values".toList, "-v".toList, "--file=g".toList] with
            stderr := .lines ["error: ".toList ++ message] }
        ∧ run { oneLineFile with environment := [(filterVariable, "trace".toList)] }
            ["enum-values".toList, "-v".toList, "--file=g".toList]
          = { run oneLineFile ["enum-values".toList, "-v".toList, "--file=g".toList] with
            stderr := .lines (traced ++ ["error: ".toList ++ message]) } := by
  have harguments : CommandLine.parse ["enum-values".toList, "-v".toList, "--file=g".toList]
      = .ok ⟨.enumValues, .blank, ⟨none, some ['g'], none, none, true⟩⟩ := by
    decide +kernel
  have hquiet : CommandLine.parse ["enum-values".toList, "--file=g".toList]
      = .ok ⟨.enumValues, .blank, ⟨none, some ['g'], none, none, false⟩⟩ := by
    decide +kernel
  have hexit : (run oneLineFile ["enum-values".toList, "-v".toList, "--file=g".toList]).exit
      = .fetch := by
    decide +kernel
  have hfilter : oneLineFile.SameBut filterVariable
      { oneLineFile with environment := [(filterVariable, "trace".toList)] } := by
    refine ⟨rfl, rfl, ?_⟩
    intro name hne
    rw [List.lookup_cons, beq_eq_false_iff_ne.mpr hne]
    rfl
  obtain ⟨-, -, traced, report, hreport, hlogged⟩ :=
    logging_never_touches_the_result oneLineFile harguments
  rw [hexit] at hreport
  rcases hreport with ⟨hzero, -⟩ | ⟨-, message, rfl⟩
  · cases hzero
  · obtain ⟨shown, hrun, -, -, hnone⟩ := hlogged oneLineFile _ _ ⟨rfl, rfl, fun _ _ => rfl⟩
      rfl hquiet ⟨rfl, rfl, rfl, rfl, rfl⟩
    obtain ⟨shown', hrun', -, hall, -⟩ := hlogged _ _ _ hfilter rfl harguments
      ⟨rfl, rfl, rfl, rfl, rfl⟩
    rw [hnone rfl rfl] at hrun
    rw [hall rfl] at hrun'
    exact ⟨traced, message, hrun, hrun'⟩

end Program

end SqlStates
