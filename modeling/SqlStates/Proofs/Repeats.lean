/-
Repeats: every data line that is left out is told of once.

A data line is left out if a line before it has its code, and what is told of it names the
first of these, which is the one that was kept. `repeats` says so of a row of entries, place
by place, and does not look at a catalog. The reader finds the same out while it fills one,
before it is known whether the text can be read to its end; so the repeats told of are those
among the lines before the first malformed one, and their number is the one that the catalog
counts. A run that asks for details shows them in this order, and the counts that it shows
afterwards are those of the catalog.
-/
import SqlStates.Proofs.Logging
import SqlStates.Proofs.FirstWins

set_option autoImplicit false

namespace SqlStates

open Text (lines)

namespace Catalog

/-! ## The repeats of a row -/

/-- What the entry at a place of a row repeats, if its code occurs before that place: the first
entry with the code. -/
def repeatAt? (es : List Entry) (place : Nat) : Option Repeat := do
  let e ← es[place]?
  let first ← (es.take place).find? fun f => f.state = e.state
  return ⟨e.state, first.name, e.name⟩

/-- The repeats of a row of entries, in the order of their places. -/
def repeats (es : List Entry) : List Repeat := (List.range es.length).filterMap (repeatAt? es)

theorem repeatAt?_append {es : List Entry} {place : Nat} (h : place < es.length) (fs : List Entry) :
    repeatAt? (es ++ fs) place = repeatAt? es place := by
  rw [repeatAt?, repeatAt?, List.getElem?_append_left h, List.take_append_of_le_length h.le]

/-- The entry at the end of a row repeats the first one before it with its code. -/
theorem repeatAt?_concat (es : List Entry) (e : Entry) :
    repeatAt? (es ++ [e]) es.length
      = (es.find? fun f => f.state = e.state).map fun first => ⟨e.state, first.name, e.name⟩ := by
  rw [repeatAt?, List.getElem?_concat_length, List.take_left]
  simp only [Option.bind_eq_bind, Option.bind_some]
  cases es.find? fun f => f.state = e.state with
  | none => rfl
  | some first => rfl

theorem repeats_concat (es : List Entry) (e : Entry) :
    repeats (es ++ [e]) = repeats es ++ (repeatAt? (es ++ [e]) es.length).toList := by
  have hbefore : ∀ place ∈ List.range es.length,
      repeatAt? (es ++ [e]) place = repeatAt? es place := fun place hplace =>
    repeatAt?_append (List.mem_range.mp hplace) [e]
  rw [repeats, List.length_append, List.length_singleton, List.range_succ, List.filterMap_append,
    List.filterMap_congr hbefore, repeats]
  cases h : repeatAt? (es ++ [e]) es.length with
  | none => simp [h]
  | some r => simp [h]

/-! ## Finding them out -/

/-- **One step.** A catalog that holds a row finds out what the next entry repeats. -/
theorem Holds.repeat?_eq {c : Catalog} {es : List Entry} (h : Holds c es) (e : Entry) :
    c.repeat? e = repeatAt? (es ++ [e]) es.length := by
  have hcode : (fun f : Entry => f.key == e.key) = fun f => decide (f.state = e.state) := by
    funext f
    rw [Bool.eq_iff_iff, beq_iff_eq, decide_eq_true_iff]
    exact SqlState.eq_iff_value_eq.symm
  rw [repeat?, h.get?_eq, hcode, repeatAt?_concat]

instance (raw : Text) : Decidable (Malformed raw) :=
  decidable_of_iff (fault? 0 raw ≠ none) (by rw [Ne, fault?_eq_none_iff, not_not])

/-- The lines before the first malformed one. -/
def soundLines (ls : List Text) : List Text := ls.takeWhile fun raw => ¬ Malformed raw

theorem soundLines_cons {raw : Text} (h : ¬ Malformed raw) (rest : List Text) :
    soundLines (raw :: rest) = raw :: soundLines rest :=
  List.takeWhile_cons_of_pos (by simpa using h)

theorem soundLines_cons_of_malformed {raw : Text} (h : Malformed raw) (rest : List Text) :
    soundLines (raw :: rest) = [] :=
  List.takeWhile_cons_of_neg (by simpa using h)

/-- If no line is malformed, all are before the first malformed one. -/
theorem soundLines_eq_self {ls : List Text} (h : ∀ raw ∈ ls, ¬ Malformed raw) :
    soundLines ls = ls :=
  List.takeWhile_eq_self_iff.mpr fun raw hraw => decide_eq_true (h raw hraw)

/-- **A run finds out the repeats among the lines before the first malformed one.** The catalog that
it starts from holds the entries before them. -/
theorem repeats_readLines {c : Catalog} {es : List Entry} (h : Holds c es) (number : Nat)
    (ls : List Text) :
    repeats es ++ (readLines c number ls).repeats = repeats (es ++ accepted (soundLines ls)) := by
  induction ls generalizing c es number with
  | nil => rw [readLines, soundLines, List.takeWhile_nil, accepted, List.filterMap_nil]; simp
  | cons raw rest ih =>
    unfold readLines
    rcases readLine_cases number raw with ⟨hskip, hline⟩ | ⟨entry, hread, hparse, hline⟩
      | ⟨fault, hread, hparse, hline⟩
    · obtain ⟨fault, hparse⟩ := parse_eq_error_of_isSkipped hskip
      have hsound : ¬ Malformed raw := fun hbad => by simp [Malformed, hskip] at hbad
      rw [hline, soundLines_cons hsound, accepted_cons_of_error hparse]
      exact ih h (number + 1)
    · have hsound : ¬ Malformed raw := fun hbad => by simp [Malformed, hparse] at hbad
      rw [Entry.parse_trim] at hparse
      rw [hline, soundLines_cons hsound, accepted_cons_of_ok hparse]
      have hlater := ih (h.insert entry) (number + 1)
      rw [repeats_concat, ← h.repeat?_eq, List.append_assoc, List.append_assoc] at hlater
      exact hlater
    · rw [hline, soundLines_cons_of_malformed ⟨hread, fault, hparse⟩, accepted, List.filterMap_nil]
      simp

/-! ## Counting them -/

/-- A catalog counts what it leaves out. -/
theorem duplicates_insert (c : Catalog) (e : Entry) :
    (c.insert e).duplicates = c.duplicates + (c.repeat? e).toList.length := by
  cases h : c.get? e.key with
  | none =>
    rw [duplicates_insert_of_none h, repeat?, h]
    rfl
  | some kept =>
    rw [insert_of_isSome (by rw [h]; rfl), repeat?, h]
    rfl

theorem length_repeats (es : List Entry) :
    (repeats es).length = (es.foldl insert empty).duplicates := by
  induction es using List.reverseRecOn with
  | nil => rfl
  | append_singleton es e ih =>
    rw [repeats_concat, List.length_append, ih, List.foldl_append, List.foldl_cons, List.foldl_nil,
      duplicates_insert, (holds_foldl es).repeat?_eq]

/-! ## Texts -/

/-- The repeats of a text: those of the data lines before its first malformed line. -/
def told (t : Text) : List Repeat := repeats (accepted (soundLines (lines t)))

theorem repeats_read (t : Text) : (read t).repeats = told t :=
  repeats_readLines holds_empty 1 (lines t)

/-- A catalog counts the repeats of the text it was read from. -/
theorem length_told {t : Text} {c : Catalog} (h : parse t = .ok c) :
    (told t).length = c.duplicates := by
  obtain ⟨hfault, rfl⟩ := parse_eq_ok_iff.mp h
  rw [told, soundLines_eq_self (firstFault_eq_none_iff.mp hfault), length_repeats]

end Catalog

/-! ## Notices -/

theorem Notice.ofReading_read (t : Text) :
    ofReading (Catalog.read t) = (Catalog.told t).map ignoring ++
      match Catalog.parse t with
      | .error _ => []
      | .ok c => [parsed c.size c.duplicates] := by
  rw [ofReading, Catalog.repeats_read, Catalog.parse]
  cases (Catalog.read t).failure with
  | none => rfl
  | some e => rfl

namespace Program

/-- The notices of a run after those of repeats, which are about all of the catalog. There are none
if the text could not be read. -/
def closing (mode : Mode) : Except FormatError Catalog → List Notice
  | .error _ => []
  | .ok c =>
    [.parsed c.size c.duplicates, .rendering mode c.size, .generated mode c.size c.duplicates]

/-- The notices of a run: those of the fetching, of the repeats, and of the catalog. -/
theorem notices_ofFetched (mode : Mode) {fetched : Fetched} {text : Text}
    (h : fetched.result = .ok text) :
    notices mode (Run.ofFetched mode Sink.unbounded fetched)
      = fetched.notices ++ (Catalog.told text).map .ignoring
        ++ closing mode (Catalog.parse text) := by
  cases hparse : Catalog.parse text with
  | error e =>
    simp [notices, Run.ofFetched, h, hparse, Notice.ofReading_read, closing]
  | ok c =>
    obtain ⟨hresult, -⟩ := Run.ofFetched_unbounded mode h hparse
    rw [notices, hresult]
    simp [Run.ofFetched, h, hparse, Notice.ofReading_read, closing, Catalog.summary]

/-- The run for a file that is named. -/
theorem runOf_file (found : Surroundings) {c : CommandLine} {path : Text} (h : c.file = some path) :
    runOf found c = Run.ofFetched c.mode Sink.unbounded (Source.fetchFile found.files path) := by
  rw [runOf, CommandLine.source_of_file h]
  rfl

/-- **Every line that is left out is told of once, and all counts agree.** An accepted command line
that asks for details and names a file that can be read, no filter being given, shows that it reads
the file, and then the repeats of the file's text in order: one for each data line before the first
malformed line whose code has occurred before, with the code, the name that it was kept with and the
name that was skipped. If the text can be read, what is shown afterwards is the number of entries,
which is the number of lines rendered, and the number of repeats, which is that of the catalog. If
not, nothing is shown afterwards but the report of the failure. -/
theorem repeats_are_told_once (around : Surroundings) {arguments : List Text} {c : CommandLine}
    {path text : Text} (h : CommandLine.parse arguments = .ok c) (hdetails : c.verbose = true)
    (hunset : around.environment.lookup filterVariable = none) (hpath : c.file = some path)
    (htext : around.opened.files.readText path = .ok text) :
    ∃ (later : List Notice) (report : List Text),
      (run around arguments).stderr
          = .lines
            ((Notice.reading path :: (Catalog.told text).map .ignoring ++ later).map Notice.line
              ++ report)
        ∧ ((run around arguments).exit.toNat = 0 ∧ report = []
          ∨ (run around arguments).exit.toNat ≠ 0
            ∧ ∃ message, report = ["error: ".toList ++ message])
        ∧ (∀ e, Catalog.parse text = .error e → later = [])
        ∧ ∀ k, Catalog.parse text = .ok k →
          later = [.parsed k.size (Catalog.told text).length, .rendering c.mode k.size,
              .generated c.mode k.size (Catalog.told text).length]
            ∧ (Catalog.told text).length = k.duplicates
            ∧ (c.mode.lines k).length = k.size
            ∧ (runOf around.opened c).sink.held.count 10 = k.size := by
  have hfetched : (Source.fetchFile around.opened.files path).result = .ok text :=
    Source.result_fetchFile_of_ok htext
  have hended : run around arguments = finish around.opened c (runOf around.opened c) := by
    rw [run, h]
    rfl
  have hfilter : c.filter around.opened.environment = .atLevel .debug := by
    rw [CommandLine.filter, Surroundings.environment_opened, hunset, hdetails]
    rfl
  refine ⟨closing c.mode (Catalog.parse text), report around.opened c (runOf around.opened c),
    ?_, ?_, ?_, ?_⟩
  · rw [hended, finish_logged _ rfl rfl rfl rfl, hfilter, shownLines_atLevel le_rfl,
      runOf_file _ hpath, notices_ofFetched c.mode hfetched]
    rfl
  · rw [hended]
    exact report_cases around.opened c (runOf around.opened c)
  · intro e he
    rw [he]
    rfl
  · intro k hk
    obtain ⟨-, hheld⟩ := Run.ofFetched_unbounded c.mode hfetched hk
    refine ⟨?_, Catalog.length_told hk, c.mode.length_lines k, ?_⟩
    · rw [hk, Catalog.length_told hk]
      rfl
    · rw [runOf_file _ hpath, hheld, Utf8.count_lf_encode, c.mode.count_lf_render hk]

/-- A file with one code on three lines, in small letters on the second of them. -/
def thrice : Text := "0A000 E ERRCODE_A\n0a000 W ERRCODE_B\n0A000 S ERRCODE_C\n".toList

/-- A place with that file. -/
def thriceFile : Surroundings :=
  { oneLineFile with files := ⟨[([['w'], ['f']], .file (Utf8.encode thrice))], [['w']]⟩ }

/-- The name that was kept is the first one each time. -/
theorem repeats_are_told_once_thriceFile :
    (run thriceFile ["enum-values".toList, "-v".toList, "--file=f".toList]).stderr
      = .lines (["INFO reading errcodes catalog path=f",
          "DEBUG ignoring duplicate sqlstate sqlstate=0A000 kept=a skipped=b",
          "DEBUG ignoring duplicate sqlstate sqlstate=0A000 kept=a skipped=c",
          "DEBUG parsed errcodes catalog entries=1 duplicates=2",
          "INFO rendering sqlstate catalog mode=enum-values entries=1",
          "INFO generated sqlstate enum-values entries=1 duplicates=2"].map String.toList) := by
  have harguments : CommandLine.parse ["enum-values".toList, "-v".toList, "--file=f".toList]
      = .ok ⟨.enumValues, .blank, ⟨none, some ['f'], none, none, true⟩⟩ := by
    decide +kernel
  have htext : thriceFile.opened.files.readText ['f'] = .ok thrice := by decide +kernel
  have hok : Catalog.parse thrice
      = .ok ((Catalog.accepted (lines thrice)).foldl Catalog.insert Catalog.empty) :=
    Catalog.parse_eq_ok_iff.mpr ⟨by decide +kernel, rfl⟩
  have hexit : (run thriceFile ["enum-values".toList, "-v".toList, "--file=f".toList]).exit
      = .success := by
    decide +kernel
  obtain ⟨later, report, hstderr, hreport, -, hread⟩ :=
    repeats_are_told_once thriceFile harguments rfl rfl rfl htext
  obtain ⟨rfl, -⟩ := hread _ hok
  rw [hexit] at hreport
  rcases hreport with ⟨-, rfl⟩ | ⟨hne, -⟩
  · rw [hstderr]
    decide +kernel
  · exact absurd rfl hne

end Program

end SqlStates
