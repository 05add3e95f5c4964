/-
Breaks: where a text is cut into its lines.

The breaks of a text are found by one scan from left to right, which takes a carriage
return and the line feed after it together: `endings` lists them as they are written,
and `segments` what stands between them. `CutAt` says the same without a scan, as the
way in which the text is put together, and there is only one such way. The library's
lines are the segments, but for the empty one after a carriage return that ends the
text; so nothing of the text is lost but its breaks.
-/
import SqlStates.Proofs.Layouts

set_option autoImplicit false

namespace SqlStates.Text

/-! ## The breaks of a text -/

/-- The breaks of a text in order, as they are written. -/
def endings : Text → List Text
  | [] => []
  | '\r' :: '\n' :: rest => ['\r', '\n'] :: endings rest
  | c :: rest => if isBreak c then [c] :: endings rest else endings rest

theorem endings_single {c : Char} {t : Text} (hc : isBreak c = true) (h : ¬ SplitsBreak [c] t) :
    endings (c :: t) = [c] :: endings t := by
  rw [endings, if_pos hc]
  rintro u rfl rfl
  exact h ⟨rfl, rfl⟩

theorem endings_other {c : Char} {t : Text} (hc : isBreak c = false) :
    endings (c :: t) = endings t := by
  rw [endings, if_neg (by simp [hc])]
  rintro u rfl rfl
  cases hc

theorem length_endings (t : Text) : (endings t).length = breaks t := by
  induction t using scan_induction with
  | nil => rfl
  | crlf t ih => rw [endings, breaks, List.length_cons, ih]
  | single c t hc hct ih => rw [endings_single hc hct, breaks_single hc hct, List.length_cons, ih]
  | other c t hc ih => rw [endings_other hc, breaks_other hc, ih]

/-- Characters in front of a text that are no breaks do not change its breaks. -/
theorem endings_append_of_unbroken {l : Text} (h : ∀ c ∈ l, isBreak c = false) (t : Text) :
    endings (l ++ t) = endings t := by
  induction l with
  | nil => rfl
  | cons c l ih =>
    rw [List.forall_mem_cons] at h
    rw [List.cons_append, endings_other h.1, ih h.2]

/-- An ending that is a whole break is scanned as one. -/
theorem scan_ending {ending t : Text} (hending : ending ∈ lineEnds) (h : ¬ SplitsBreak ending t) :
    segments (ending ++ t) = [] :: segments t ∧ endings (ending ++ t) = ending :: endings t := by
  rw [lineEnds, List.mem_cons, List.mem_cons, List.mem_singleton] at hending
  rcases hending with rfl | rfl | rfl
  · exact ⟨segments_single rfl h, endings_single rfl h⟩
  · exact ⟨rfl, rfl⟩
  · exact ⟨segments_single rfl h, endings_single rfl h⟩

/-! ## The one way to cut a text -/

/-- A text put together from pieces without breaks in them and the breaks between them. No break
can be taken for half of another: a carriage return that is a break has no line feed after it. -/
inductive CutAt : Text → List Text → List Text → Prop
  | last {piece : Text} : (∀ c ∈ piece, isBreak c = false) → CutAt piece [piece] []
  | next {piece ending t : Text} {pieces ends : List Text} :
    (∀ c ∈ piece, isBreak c = false) → ending ∈ lineEnds → ¬ SplitsBreak ending t →
    CutAt t pieces ends → CutAt (piece ++ (ending ++ t)) (piece :: pieces) (ending :: ends)

/-- A character in front that is no break belongs to the first piece. -/
theorem CutAt.cons {c : Char} {t : Text} {pieces ends : List Text} (hc : isBreak c = false)
    (h : CutAt t pieces ends) : CutAt (c :: t) (pieces.modifyHead (c :: ·)) ends := by
  cases h with
  | last hpiece => exact .last (List.forall_mem_cons.mpr ⟨hc, hpiece⟩)
  | next hpiece hending hwhole hrest =>
    exact .next (List.forall_mem_cons.mpr ⟨hc, hpiece⟩) hending hwhole hrest

/-- A break in front of a text has an empty piece before it. -/
theorem CutAt.atBreak {ending t : Text} {pieces ends : List Text} (hending : ending ∈ lineEnds)
    (hwhole : ¬ SplitsBreak ending t) (h : CutAt t pieces ends) :
    CutAt (ending ++ t) ([] :: pieces) (ending :: ends) :=
  .next (List.forall_mem_nil _) hending hwhole h

/-- The scan cuts a text at its breaks. -/
theorem cutAt_segments (t : Text) : CutAt t (segments t) (endings t) := by
  induction t using scan_induction with
  | nil => exact .last (by simp)
  | crlf t ih =>
    have hwhole : ¬ SplitsBreak ['\r', '\n'] t := fun h => by cases h.1
    exact .atBreak (by decide) hwhole ih
  | single c t hc hct ih =>
    have hending : [c] ∈ lineEnds := by
      rw [isBreak, Bool.or_eq_true, beq_iff_eq, beq_iff_eq] at hc
      rcases hc with rfl | rfl
      · decide
      · decide
    rw [segments_single hc hct, endings_single hc hct]
    exact .atBreak hending hct ih
  | other c t hc ih =>
    rw [segments_other hc, endings_other hc]
    exact ih.cons hc

/-- **A text is cut in one way only**, which is that of the scan. -/
theorem CutAt.eq_scan {t : Text} {pieces ends : List Text} (h : CutAt t pieces ends) :
    pieces = segments t ∧ ends = endings t := by
  induction h with
  | @last piece hpiece =>
    have hnone := endings_append_of_unbroken hpiece []
    rw [List.append_nil] at hnone
    exact ⟨(segments_of_unbroken hpiece).symm, hnone.symm⟩
  | @next piece ending t pieces ends hpiece hending hwhole _ ih =>
    obtain ⟨hsegments, hendings⟩ := scan_ending hending hwhole
    obtain ⟨rfl, rfl⟩ := ih
    rw [segments_append_of_unbroken hpiece, hsegments, endings_append_of_unbroken hpiece, hendings,
      List.modifyHead_cons, List.append_nil]
    exact ⟨rfl, rfl⟩

/-! ## What the lines keep -/

/-- Put together, the segments are the text without its breaks. -/
theorem flatten_segments (t : Text) : (segments t).flatten = t.filter fun c => !isBreak c := by
  induction t using scan_induction with
  | nil => rfl
  | crlf t ih => exact ih
  | single c t hc hct ih =>
    rw [segments_single hc hct, List.filter_cons_of_neg (by simp [hc])]
    exact ih
  | other c t hc ih =>
    obtain ⟨s, ss, hs⟩ := List.exists_cons_of_ne_nil (segments_ne_nil t)
    rw [segments_other hc, List.filter_cons_of_pos (by simp [hc]), ← ih, hs]
    rfl

/-- So are the lines, which lack an empty segment at most. -/
theorem flatten_lines (t : Text) : (lines t).flatten = t.filter fun c => !isBreak c := by
  rw [← flatten_segments, segments_eq, List.flatten_append]
  split
  · exact (List.append_nil _).symm
  · exact (List.append_nil _).symm

theorem unbroken_of_mem_lines {t line : Text} (h : line ∈ lines t) :
    ∀ c ∈ line, isBreak c = false := by
  intro c hc
  have hmem : c ∈ (lines t).flatten := List.mem_flatten_of_mem h hc
  rw [flatten_lines, List.mem_filter] at hmem
  simpa using hmem.2

/-- There is one line more than there are breaks, unless a carriage return ends the text. -/
theorem length_lines (t : Text) :
    (lines t).length = if t.getLast? = some '\r' then breaks t else breaks t + 1 := by
  have hlen := length_segments t
  rw [segments_eq, List.length_append] at hlen
  split at hlen
  · next hcr =>
    rw [if_pos hcr]
    simpa using hlen
  · next hcr =>
    rw [if_neg hcr]
    exact hlen

/-- **Lines are exact and lose nothing.** A text is cut at its breaks in one way, which is that of
the scan from left to right. What stands between the breaks are the lines of the text in order, with
an empty one at the end that is no line if the text ends in a carriage return. So no line has either
of the characters of breaks in it, all the other characters are in the lines in their order, and
there is one line more than there are breaks, or as many if the text ends in a carriage return. -/
theorem lines_exact (t : Text) :
    (∀ pieces ends, CutAt t pieces ends ↔ pieces = segments t ∧ ends = endings t)
      ∧ (segments t = lines t ++ if t.getLast? = some '\r' then [[]] else [])
      ∧ (∀ line ∈ lines t, '\n' ∉ line ∧ '\r' ∉ line)
      ∧ (lines t).flatten = (t.filter fun c => c ≠ '\n' ∧ c ≠ '\r')
      ∧ (lines t).length
        = if t.getLast? = some '\r' then (endings t).length else (endings t).length + 1 := by
  refine ⟨?_, segments_eq t, ?_, ?_, ?_⟩
  · intro pieces ends
    constructor
    · exact CutAt.eq_scan
    · rintro ⟨rfl, rfl⟩
      exact cutAt_segments t
  · intro line hline
    have hunbroken := unbroken_of_mem_lines hline
    refine ⟨?_, ?_⟩
    · intro hlf
      cases hunbroken '\n' hlf
    · intro hcr
      cases hunbroken '\r' hcr
  · rw [flatten_lines]
    apply List.filter_congr
    intro c _
    rw [Bool.eq_iff_iff]
    simp [isBreak]
  · rw [length_endings]
    exact length_lines t

/-- A text with breaks of all kinds next to each other, and a carriage return at its end. -/
def mixedBreaks : Text := "a\r\r\nb\n\r\n\nc\r".toList

theorem lines_exact_mixedBreaks :
    CutAt mixedBreaks [['a'], [], ['b'], [], [], ['c'], []]
        [['\r'], ['\r', '\n'], ['\n'], ['\r', '\n'], ['\n'], ['\r']]
      ∧ ['c'] ∈ lines mixedBreaks ∧ '\r' ∉ ['c'] ∧ (lines mixedBreaks).length = 6 := by
  obtain ⟨hcut, -, hclean, -, hlength⟩ := lines_exact mixedBreaks
  have hmem : ['c'] ∈ lines mixedBreaks := by decide
  refine ⟨(hcut _ _).mpr ⟨by decide, by decide⟩, hmem, (hclean _ hmem).2, ?_⟩
  rw [hlength]
  decide

end SqlStates.Text
