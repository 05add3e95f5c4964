/-
Line endings: a text is read the same whichever of them it uses.

Making every break of a text one line feed changes neither how many segments the text
has nor what they are. It can change the library's lines: a carriage return that ends a
text opens no further line, and the line feed put in its place opens an empty one. That
line is the only difference, and an empty line is passed over wherever it stands, so
the two readings are one: the same entries, the same repeats and the same error.
-/
import SqlStates.Mode
import SqlStates.Proofs.Reading

set_option autoImplicit false

namespace SqlStates

namespace Text

/-! ## One kind of break -/

/-- The text with a line feed in place of every carriage return that a line feed follows, and of
that line feed. -/
def joinBreaks : Text → Text
  | [] => []
  | '\r' :: '\n' :: rest => '\n' :: joinBreaks rest
  | c :: rest => c :: joinBreaks rest

/-- The text with a line feed in place of every break. The breaks of two characters are replaced
first, and then the carriage returns that are left. -/
def lineFeeds (t : Text) : Text := (joinBreaks t).map fun c => if c = '\r' then '\n' else c

theorem not_mem_lineFeeds (t : Text) : '\r' ∉ lineFeeds t := by
  intro h
  obtain ⟨c, -, hc⟩ := List.mem_map.mp h
  split at hc
  · cases hc
  · next hne => exact hne hc

theorem lineFeeds_crlf (t : Text) : lineFeeds ('\r' :: '\n' :: t) = '\n' :: lineFeeds t := by
  rw [lineFeeds, joinBreaks, List.map_cons, if_neg (by decide), lineFeeds]

/-- A character that is not the first of two of one break is replaced alone. -/
theorem lineFeeds_cons {c : Char} {t : Text} (h : ¬ SplitsBreak [c] t) :
    lineFeeds (c :: t) = (if c = '\r' then '\n' else c) :: lineFeeds t := by
  have hjoin : joinBreaks (c :: t) = c :: joinBreaks t := by
    rw [joinBreaks]
    rintro u rfl rfl
    exact h ⟨rfl, rfl⟩
  rw [lineFeeds, hjoin, List.map_cons, lineFeeds]

/-- **Segments do not depend on the kinds of breaks.** -/
theorem segments_lineFeeds (t : Text) : segments (lineFeeds t) = segments t := by
  induction t using scan_induction with
  | nil => rfl
  | crlf t ih => rw [lineFeeds_crlf, segments_lf, ih, segments]
  | single c t hc hct ih =>
    -- whichever of the two it is, a line feed takes its place
    have hbreak : (if c = '\r' then '\n' else c) = '\n' := by
      rw [isBreak, Bool.or_eq_true, beq_iff_eq, beq_iff_eq] at hc
      rcases hc with rfl | rfl
      · rfl
      · rfl
    rw [lineFeeds_cons hct, hbreak, segments_lf, ih, segments_single hc hct]
  | other c t hc ih =>
    have hcr : c ≠ '\r' := by
      rintro rfl
      cases hc
    have hct : ¬ SplitsBreak [c] t := fun h => hcr (Option.some.inj h.1)
    rw [lineFeeds_cons hct, if_neg hcr, segments_other hc, ih, segments_other hc]

-- the lines of the library, in contrast, can be one more
example : lines "a\r\r".toList = ["a".toList, []]
    ∧ lines (lineFeeds "a\r\r".toList) = ["a".toList, [], []] := by decide

end Text

namespace Catalog

open Text (lineFeeds)

/-- **Line endings do not matter.** A text and the same text with every break made a line feed,
which has no carriage return left, are read alike: as catalogs with the same entries in the same
order and the same number of entries left out, or with the same error in the same line, and the same
repeats are told of on the way. So either mode renders them alike. -/
theorem parse_lineFeeds (t : Text) :
    '\r' ∉ lineFeeds t ∧ read (lineFeeds t) = read t ∧ parse (lineFeeds t) = parse t
      ∧ ∀ mode : Mode, (parse (lineFeeds t)).map mode.render = (parse t).map mode.render := by
  have hread : read (lineFeeds t) = read t := by
    rw [read_eq_segments, read_eq_segments, Text.segments_lineFeeds]
  have hparse : parse (lineFeeds t) = parse t := by
    rw [parse, parse, hread]
  refine ⟨Text.not_mem_lineFeeds t, hread, hparse, ?_⟩
  intro mode
  rw [hparse]

end Catalog

end SqlStates
