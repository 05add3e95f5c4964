/-
Outcomes: what a run from a source to a sink can come to.

Of the three steps of a run the first that fails decides. Nothing has reached the sink
when fetching or reading fails, so a sink without any room does not hide those errors.
When both succeed, the sink is given the bytes of the rendering as far as its room
goes, and the run succeeds exactly if that is all of them; the sink has then been given
one line feed for each entry.
-/
import SqlStates.Generate
import SqlStates.Proofs.Writing

set_option autoImplicit false

namespace SqlStates

namespace Run

/-! ## The three steps -/

variable (mode : Mode) (sink : Sink) {fetched : Fetched}

theorem ofFetched_of_fetch_error {e : FetchError} (h : fetched.result = .error e) :
    (ofFetched mode sink fetched).result = .error (.fetch e)
      ∧ (ofFetched mode sink fetched).sink = sink := by
  unfold ofFetched
  rw [h]
  exact ⟨rfl, rfl⟩

theorem ofFetched_of_format_error {text : Text} {e : FormatError} (h : fetched.result = .ok text)
    (hparse : Catalog.parse text = .error e) :
    (ofFetched mode sink fetched).result = .error (.format e)
      ∧ (ofFetched mode sink fetched).sink = sink := by
  unfold ofFetched
  simp only [h, hparse, and_self]

/-- A catalog that was read is poured into the sink. -/
theorem ofFetched_of_ok {text : Text} {c : Catalog} (h : fetched.result = .ok text)
    (hparse : Catalog.parse text = .ok c) :
    (ofFetched mode sink fetched).result
        = ofWritten c (sink.pour (Utf8.encode (mode.render c))).2
      ∧ (ofFetched mode sink fetched).sink = (sink.pour (Utf8.encode (mode.render c))).1 := by
  unfold ofFetched
  simp only [h, hparse, Mode.renderTo_eq, and_self]

/-- What a run comes to that has the bytes of a catalog for a sink. The sink takes as many of them
as it has room for, the run fails to write exactly if there are more, and otherwise it succeeds with
the counts of the catalog, as many line feeds having been put in as there are entries. -/
structure Delivers (run : Run) (sink : Sink) (c : Catalog) (bytes : Bytes) : Prop where
  limited : ∀ room, sink.room = some room →
    run.sink.held = sink.held ++ bytes.take (min (room - sink.held.length) bytes.length)
  unlimited : sink.room = none → run.sink.held = sink.held ++ bytes
  fails_iff : (∃ e, run.result = .error (.write e)) ↔
    ∃ room, sink.room = some room ∧ room - sink.held.length < bytes.length
  succeeds : (¬ ∃ e, run.result = .error (.write e)) → run.result = .ok ⟨c.size, c.duplicates⟩
  line_feeds : ∀ counts, run.result = .ok counts →
    run.sink.held.count 10 = sink.held.count 10 + counts.entries

/-- Not all of some bytes fit exactly if there is a limit and they are more than what is left. -/
theorem not_takes_iff {s : Sink} {n : Nat} :
    ¬ s.Takes n ↔ ∃ room, s.room = some room ∧ room - s.held.length < n := by
  simp only [Sink.takes_iff, not_forall, Nat.not_le, exists_prop]

theorem delivers_of_pour {run : Run} {c : Catalog} {bytes : Bytes}
    (hlf : bytes.count 10 = c.size) (hresult : run.result = ofWritten c (sink.pour bytes).2)
    (hsink : run.sink = (sink.pour bytes).1) : Delivers run sink c bytes where
  limited := by
    intro room hroom
    rw [hsink, Sink.pour, Sink.put, Sink.fits_of_limited hroom, Nat.min_comm]
  unlimited := by
    intro hroom
    rw [hsink, Sink.pour, Sink.put, Sink.fits_of_unlimited hroom, List.take_length]
  fails_iff := by
    rw [← not_takes_iff, hresult]
    by_cases htakes : sink.Takes bytes.length
    · rw [Sink.pour_of_takes htakes]
      simp [ofWritten, htakes]
    · rw [Sink.pour_of_not_takes htakes]
      simp [ofWritten, htakes]
  succeeds := by
    rw [hresult]
    by_cases htakes : sink.Takes bytes.length
    · rw [Sink.pour_of_takes htakes]
      exact fun _ => rfl
    · rw [Sink.pour_of_not_takes htakes]
      exact fun h => absurd ⟨_, rfl⟩ h
  line_feeds := by
    intro counts hcounts
    by_cases htakes : sink.Takes bytes.length
    · -- a run that succeeds has put in all of the bytes
      rw [hresult, Sink.pour_of_takes htakes] at hcounts
      rw [hsink, Sink.pour_of_takes htakes, Sink.put, htakes.fits_eq, List.take_length,
        List.count_append, hlf, ← Except.ok.inj hcounts]
      rfl
    · rw [hresult, Sink.pour_of_not_takes htakes] at hcounts
      cases hcounts

end Run

/-- **The outcome of a run.** If the source cannot be fetched, the run fails for that reason. If it
can be, but its text cannot be read, the run fails with the error of the text. In either case the
sink is what it was, whatever room it has. If the text can be read, the bytes of the rendering are
delivered to the sink. -/
theorem generate_outcome (files : FileTree) (net : Network) (source : Source) (mode : Mode)
    (sink : Sink) :
    (∀ e, (source.fetch files net).result = .error e →
        (generate files net source mode sink).result = .error (.fetch e)
          ∧ (generate files net source mode sink).sink = sink)
      ∧ (∀ text e, (source.fetch files net).result = .ok text → Catalog.parse text = .error e →
        (generate files net source mode sink).result = .error (.format e)
          ∧ (generate files net source mode sink).sink = sink)
      ∧ ∀ text c, (source.fetch files net).result = .ok text → Catalog.parse text = .ok c →
        (generate files net source mode sink).Delivers sink c (Utf8.encode (mode.render c)) := by
  refine ⟨?_, ?_, ?_⟩
  · intro e he
    exact Run.ofFetched_of_fetch_error mode sink he
  · intro text e htext he
    exact Run.ofFetched_of_format_error mode sink htext he
  · intro text c htext hc
    have hlf : (Utf8.encode (mode.render c)).count 10 = c.size := by
      rw [Utf8.count_lf_encode, mode.count_lf_render hc]
    obtain ⟨hresult, hsink⟩ := Run.ofFetched_of_ok mode sink htext hc
    exact Run.delivers_of_pour sink hlf hresult hsink

/-- A file with one data line, whose name starts with a letter of two bytes. -/
def accentFile : FileTree where
  nodes := [([['w'], ['f']], .file (Utf8.encode "0A000 E ERRCODE_ÉT\n".toList))]
  workDir := [['w']]

/-- A sink with room for one byte, which takes half of the first letter. -/
theorem generate_outcome_accentFile :
    (∃ e, (generate accentFile ⟨[], .utf8⟩ (.file ['f']) .enumValues
        ⟨some 1, .takeNothing, []⟩).result = .error (.write e))
      ∧ (generate accentFile ⟨[], .utf8⟩ (.file ['f']) .enumValues
        ⟨some 1, .takeNothing, []⟩).sink.held = [0xC3] := by
  have hfetch : (Source.fetch accentFile ⟨[], .utf8⟩ (.file ['f'])).result
      = .ok "0A000 E ERRCODE_ÉT\n".toList := by decide +kernel
  have hparse : Catalog.parse "0A000 E ERRCODE_ÉT\n".toList
      = .ok ((Catalog.accepted (Text.lines "0A000 E ERRCODE_ÉT\n".toList)).foldl Catalog.insert
        Catalog.empty) :=
    Catalog.parse_eq_ok_iff.mpr ⟨by decide +kernel, rfl⟩
  have hdelivers := (generate_outcome accentFile ⟨[], .utf8⟩ (.file ['f']) .enumValues
    ⟨some 1, .takeNothing, []⟩).2.2 _ _ hfetch hparse
  refine ⟨hdelivers.fails_iff.mpr ⟨1, rfl, by decide +kernel⟩, ?_⟩
  rw [hdelivers.limited 1 rfl]
  decide +kernel

end SqlStates
