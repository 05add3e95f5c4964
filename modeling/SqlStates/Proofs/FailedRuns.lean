/-
Failed runs leave nothing behind.

Only two things can reach the outside of a run: what is written to a path and what is
printed. Both come last, after every stage that can fail, and a write that is refused
changes nothing itself. So a run with an exit code other than 0 has printed nothing, and
the files are those that it found. It finds them as they are once standard output is open,
which empties or creates the file that standard output leads to, if it leads to one. That
file is the only one that can be told from what it was before (`node?_opened`).
-/
import SqlStates.Proofs.ExitCodes

set_option autoImplicit false

namespace SqlStates

/-! ## Opening standard output -/

namespace Surroundings

/-- Whether standard output leads to a file, or to a free name, at a path from the root. -/
def RedirectsTo (around : Surroundings) (q : Path) : Prop :=
  ∃ path, around.stdoutPath = some path ∧ around.files.LeadsToFile path q

variable {around : Surroundings}

/-- Opening standard output writes no bytes to where it leads, if that can be opened, and does
nothing else. -/
theorem opened_cases (around : Surroundings) :
    around.opened = around ∨ ∃ path, around.stdoutPath = some path
      ∧ around.files.Written path [] around.opened.files := by
  cases hpath : around.stdoutPath with
  | none => exact .inl (by simp [opened, hpath])
  | some path =>
    cases hwrite : around.files.write path [] with
    | error fault => exact .inl (by simp [opened, hpath, hwrite])
    | ok files =>
      have hfiles : around.opened.files = files := by simp [opened, hpath, hwrite]
      refine .inr ⟨path, rfl, ?_⟩
      rw [hfiles]
      exact FileTree.written_of_write hwrite

theorem node?_opened {q : Path} (h : ¬ around.RedirectsTo q) :
    around.opened.files.node? q = around.files.node? q := by
  rcases opened_cases around with hsame | ⟨path, hpath, hwritten⟩
  · rw [hsame]
  · apply hwritten.node?_of_not_leads
    intro hleads
    exact h ⟨path, hpath, hleads⟩

/-- If standard output leads to no file, opening it changes nothing. -/
theorem files_opened (h : ∀ q, ¬ around.RedirectsTo q) : around.opened.files = around.files := by
  rcases opened_cases around with hsame | ⟨path, hpath, hwritten⟩
  · rw [hsame]
  · apply hwritten.eq_of_not_leads
    intro q hleads
    exact h q ⟨path, hpath, hleads⟩

end Surroundings

/-! ## Failures -/

namespace Program

/-- A run for a command line that fails has printed nothing and changed no file. Its exit code is
not that of a command line that cannot be read. -/
theorem Ended.untouched {found : Surroundings} {c : CommandLine} {outcome : Outcome}
    (h : Ended found c outcome) (hexit : outcome.exit.toNat ≠ 0) :
    outcome.stdout = .bytes [] ∧ outcome.files = found.files ∧ outcome.exit.toNat ≠ 1 := by
  have hleaves : ∀ exit report, exit.toNat ≠ 1 → Leaves found outcome exit report →
      outcome.stdout = .bytes [] ∧ outcome.files = found.files ∧ outcome.exit.toNat ≠ 1 := by
    intro exit report hne leaves
    refine ⟨leaves.stdout_eq, leaves.files_eq, ?_⟩
    rw [leaves.exit_eq]
    exact hne
  cases h with
  | unfetched e fetch leaves => exact hleaves _ _ (by decide) leaves
  | malformed text e fetch parse leaves => exact hleaves _ _ (by decide) leaves
  | refused text k path fault fetch parse goes write leaves => exact hleaves _ _ (by decide) leaves
  | printed text k fetch parse goes exit_eq stdout_eq files_eq =>
    rw [exit_eq] at hexit
    exact absurd rfl hexit
  | written text k path fetch parse goes write holds exit_eq stdout_eq =>
    rw [exit_eq] at hexit
    exact absurd rfl hexit

/-- The only request that fails is the one that cannot be read: help and the version are granted. -/
theorem answerStop_untouched {found : Surroundings} {stop : Stop}
    (hexit : (answerStop found stop).exit.toNat ≠ 0) :
    (answerStop found stop).stdout = .bytes [] ∧ (answerStop found stop).files = found.files
      ∧ (answerStop found stop).requests = [] := by
  cases stop with
  | usage => exact ⟨rfl, rfl, rfl⟩
  | help => exact absurd rfl hexit
  | version =>
    -- a version that cannot be printed is no failure either
    unfold answerStop at hexit
    cases hprint : found.print (Utf8.encode versionText) with
    | error fault =>
      simp only [hprint] at hexit
      exact absurd rfl hexit
    | ok printed =>
      simp only [hprint] at hexit
      exact absurd rfl hexit

/-- **A failed run leaves nothing behind.** If the exit code is not 0, standard output is empty and
the files are those that the program found. At a path that standard output does not lead to, there
is what there was before the program was started, so if it leads to no file at all, no file has been
created, emptied or changed. With exit code 1 no request has been sent either. -/
theorem failed_run_leaves_nothing (around : Surroundings) (arguments : List Text)
    (h : (run around arguments).exit.toNat ≠ 0) :
    (run around arguments).stdout = .bytes []
      ∧ (run around arguments).files = around.opened.files
      ∧ (∀ q, ¬ around.RedirectsTo q →
          (run around arguments).files.node? q = around.files.node? q)
      ∧ ((∀ q, ¬ around.RedirectsTo q) → (run around arguments).files = around.files)
      ∧ ((run around arguments).exit.toNat = 1 → (run around arguments).requests = []) := by
  have huntouched : (run around arguments).stdout = .bytes []
      ∧ (run around arguments).files = around.opened.files
      ∧ ((run around arguments).exit.toNat = 1 → (run around arguments).requests = []) := by
    unfold run at h ⊢
    cases hparse : CommandLine.parse arguments with
    | error stop =>
      simp only [hparse] at h ⊢
      obtain ⟨hstdout, hfiles, hrequests⟩ := answerStop_untouched h
      exact ⟨hstdout, hfiles, fun _ => hrequests⟩
    | ok c =>
      -- requests may have been sent, but then the exit code is not 1
      simp only [hparse] at h ⊢
      obtain ⟨hstdout, hfiles, hne⟩ := (ended_execute around.opened c).untouched h
      exact ⟨hstdout, hfiles, fun hone => absurd hone hne⟩
  obtain ⟨hstdout, hfiles, hrequests⟩ := huntouched
  refine ⟨hstdout, hfiles, ?_, ?_, hrequests⟩
  · intro q hq
    rw [hfiles]
    exact Surroundings.node?_opened hq
  · intro hnone
    rw [hfiles]
    exact Surroundings.files_opened hnone

/-- A malformed catalog, next to a file of earlier lines. -/
def malformedCatalog : Surroundings where
  files := ⟨[([['w'], ['f']], .file (Utf8.encode "0A000 E ERRCODE_A\n0100 W ERRCODE_B\n".toList)),
    ([['w'], ['o']], .file (Utf8.encode "a=1,\n".toList))], [['w']]⟩
  network := ⟨[], .utf8⟩
  environment := []
  stdoutPath := none

/-- The file that the lines would have gone to keeps what it holds. -/
theorem failed_run_leaves_nothing_malformedCatalog :
    (run malformedCatalog ["enum-values".toList, "--file=f".toList, "-oo".toList]).exit.toNat = 3
      ∧ (run malformedCatalog ["enum-values".toList, "--file=f".toList, "-oo".toList]).stdout
        = .bytes []
      ∧ (run malformedCatalog ["enum-values".toList, "--file=f".toList, "-oo".toList]).files.readBytes
        ['o'] = .ok (Utf8.encode "a=1,\n".toList) := by
  have hexit : (run malformedCatalog
      ["enum-values".toList, "--file=f".toList, "-oo".toList]).exit.toNat = 3 := by
    decide +kernel
  have hnone : ∀ q, ¬ malformedCatalog.RedirectsTo q := by
    rintro q ⟨path, hpath, -⟩
    cases hpath
  obtain ⟨hstdout, -, -, hfiles, -⟩ := failed_run_leaves_nothing malformedCatalog
    ["enum-values".toList, "--file=f".toList, "-oo".toList] (by rw [hexit]; decide)
  refine ⟨hexit, hstdout, ?_⟩
  rw [hfiles hnone]
  decide +kernel

end Program

end SqlStates
