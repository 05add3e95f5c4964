/-
The first error: which line ends the reading of a text, and what is said of it.

The error of a text is the error of its first malformed line. Its number counts the
breaks before that line, its text is the line trimmed, and its cause is what is wrong
with that text alone, so reading it alone fails in the same way. A malformed line has
at least one word, since a trimmed line without words is empty and is passed over.
-/
import SqlStates.Proofs.Reading

set_option autoImplicit false

namespace SqlStates

/-! ## Causes -/

/-- Whether an error can be what is wrong with a line of a text. -/
def Error.IsLineFault : Error → Prop
  | .tooFewFields found => found = 1 ∨ found = 2
  | .codeLength _ _ => True
  | .codeDigit _ _ => True
  | .missingMarker _ => True
  | .unknownMode _ => False
  | .line _ _ _ => False

/-- What is wrong with a line is not an error about another line. -/
theorem LineFault.root_toError (f : LineFault) : f.toError.root = f.toError := by
  rcases f with found | (code | ⟨code, found⟩) | label
  · rfl
  · rfl
  · rfl
  · rfl

/-- Words fail for a line's reasons, unless there are none. -/
theorem Entry.isLineFault_of_ofWords {ws : List Text} {f : LineFault} (hne : ws ≠ [])
    (h : Entry.ofWords ws = .error f) : f.toError.IsLineFault := by
  rcases ws with _ | ⟨code, _ | ⟨severity, _ | ⟨label, rest⟩⟩⟩
  · exact absurd rfl hne
  · cases h
    exact .inl rfl
  · cases h
    exact .inr rfl
  · cases hcode : SqlState.parse code with
    | error e =>
      simp only [Entry.ofWords, hcode, Except.error.injEq] at h
      rw [← h]
      rcases e with code | ⟨code, found⟩
      · exact trivial
      · exact trivial
    | ok state =>
      cases hlabel : Entry.marker.isPrefixOf? label with
      | none =>
        simp only [Entry.ofWords, hcode, hlabel, Except.error.injEq] at h
        rw [← h]
        exact trivial
      | some name => simp [Entry.ofWords, hcode, hlabel] at h

namespace Catalog

open Text (lines trim breaks LineAt)

/-- A trimmed line that is not passed over has a word: it is not empty, and what it starts with is
no blank. -/
theorem words_trim_ne_nil {raw : Text} (h : isSkipped (trim raw) = false) :
    Text.words (trim raw) ≠ [] := by
  intro hwords
  rw [Text.words_eq_nil_iff] at hwords
  cases hline : trim raw with
  | nil =>
    rw [hline] at h
    cases h
  | cons c u =>
    have hblank := hwords c (by rw [hline]; exact List.mem_cons_self ..)
    rw [Text.isBlank_of_trim_eq_cons hline] at hblank
    cases hblank

/-! ## Texts that cannot be read -/

/-- A text cannot be read exactly if one of its lines is malformed. -/
theorem exists_parse_error_iff (t : Text) :
    (∃ e, parse t = .error e) ↔ ∃ raw ∈ lines t, Malformed raw := by
  constructor
  · rintro ⟨e, he⟩
    obtain ⟨pre, raw, post, hlines, -, hraw⟩ := firstFault_eq_some (parse_eq_error_iff.mp he)
    obtain ⟨hread, hparse, -, -⟩ := fault?_eq_some_iff.mp hraw
    exact ⟨raw, by rw [hlines]; simp, hread, _, hparse⟩
  · rintro ⟨raw, hmem, hmalformed⟩
    -- a malformed line somewhere means that there is a first one
    have hsome : firstFault 1 (lines t) ≠ none := by
      intro hnone
      exact firstFault_eq_none_iff.mp hnone raw hmem hmalformed
    obtain ⟨e, he⟩ := Option.ne_none_iff_exists'.mp hsome
    exact ⟨e, parse_eq_error_iff.mpr he⟩

/-- The text of an error, read alone, has the same error in its only line. -/
theorem parse_text_of_fault? {number : Nat} {raw : Text} {e : FormatError}
    (hraw : ∀ c ∈ raw, Text.isBreak c = false) (h : fault? number raw = some e) :
    parse e.text = .error { e with line := 1 } := by
  obtain ⟨hread, hparse, -, htext⟩ := fault?_eq_some_iff.mp h
  have hline : lines e.text = [trim raw] := by
    rw [htext]
    exact Text.lines_of_unbroken fun c hc => hraw c (Text.mem_of_mem_trim hc)
  -- the text is trimmed already, so trimming it once more changes nothing
  have hfault : fault? 1 (trim raw) = some { e with line := 1 } := by
    rw [fault?_eq_some_iff, Text.trim_trim]
    exact ⟨hread, hparse, rfl, htext⟩
  rw [parse_eq_error_iff, hline, firstFault, hfault]
  rfl

/-- **The error of a text is the first one in it.** Reading fails exactly if a line that is not
passed over, trimmed, cannot be read. It then fails at the first such line: the number is one more
than that of the breaks before the place of the line, the text is the line trimmed, and the cause is
what reading that text as a line gives, which is the root of the error and no error about a line or
a mode. Reading the reported text alone gives the same cause again, in line 1. -/
theorem parse_fails_at_first_malformed (t : Text) :
    ((∃ e, parse t = .error e) ↔ ∃ raw ∈ lines t, Malformed raw)
      ∧ ∀ e, parse t = .error e → ∃ pre raw post before after,
          lines t = pre ++ raw :: post ∧ (∀ l ∈ pre, ¬ Malformed l) ∧ Malformed raw
          ∧ LineAt t before raw after ∧ breaks before = pre.length
          ∧ e.line = breaks before + 1 ∧ e.text = trim raw
          ∧ Entry.parse (trim raw) = .error e.fault
          ∧ e.toError.line? = some (breaks before + 1) ∧ e.toError.root = e.fault.toError
          ∧ e.toError.root.IsLineFault ∧ parse e.text = .error { e with line := 1 } := by
  refine ⟨exists_parse_error_iff t, ?_⟩
  intro e he
  obtain ⟨pre, raw, post, hlines, hpre, hraw⟩ := firstFault_eq_some (parse_eq_error_iff.mp he)
  obtain ⟨hread, hparse, hnumber, htext⟩ := fault?_eq_some_iff.mp hraw
  obtain ⟨before, after, hat, hbreaks⟩ := Text.lineAt_of_lines hlines
  have hline : e.line = breaks before + 1 := by
    rw [hnumber, hbreaks, Nat.add_comm]
  have hroot : e.toError.root = e.fault.toError := LineFault.root_toError e.fault
  have hcause : e.fault.toError.IsLineFault := by
    apply Entry.isLineFault_of_ofWords _ hparse
    exact words_trim_ne_nil hread
  refine ⟨pre, raw, post, before, after, hlines, hpre, ⟨hread, _, hparse⟩, hat, hbreaks, hline, htext,
    hparse, ?_, hroot, ?_, parse_text_of_fault? hat.unbroken hraw⟩
  · rw [← hline]
    rfl
  · rw [hroot]
    exact hcause

end Catalog

end SqlStates
