/-
Lines, by one scan from left to right.

The library cuts a text twice, at line feeds and then at the carriage returns that
are left. Here the breaks are found in one scan, in which a carriage return takes the
line feed after it along: `breaks` counts them and `segments` is what stands between
them. The two agree up to the empty segment after a carriage return that ends the
text (`segments_eq`), and on segments the laws are simple: there is one more of them
than there are breaks, each stands at a place of the text, and they go through
concatenation.
-/
import Mathlib.Data.List.Basic
import SqlStates.Text.Lines

set_option autoImplicit false

namespace SqlStates.Text

/-! ## The scan -/

/-- Whether a character ends a line. -/
def isBreak (c : Char) : Bool := c == '\n' || c == '\r'

/-- The number of breaks of a text, the two characters of one break counted once. -/
def breaks : Text → Nat
  | [] => 0
  | '\r' :: '\n' :: rest => breaks rest + 1
  | c :: rest => if isBreak c then breaks rest + 1 else breaks rest

/-- What stands before, between and after the breaks of a text. -/
def segments : Text → List Text
  | [] => [[]]
  | '\r' :: '\n' :: rest => [] :: segments rest
  | c :: rest => if isBreak c then [] :: segments rest else (segments rest).modifyHead (c :: ·)

/-- Whether two texts, one after the other, have the two characters of one break on either side
of the seam. -/
def SplitsBreak (t u : Text) : Prop := t.getLast? = some '\r' ∧ u.head? = some '\n'

/-- A text is scanned one break or one other character at a time. A carriage return is a break of
its own only where no line feed follows it. -/
theorem scan_induction {P : Text → Prop} (nil : P []) (crlf : ∀ t, P t → P ('\r' :: '\n' :: t))
    (single : ∀ c t, isBreak c = true → ¬ SplitsBreak [c] t → P t → P (c :: t))
    (other : ∀ c t, isBreak c = false → P t → P (c :: t)) (t : Text) : P t := by
  fun_induction segments t with
  | case1 => exact nil
  | case2 rest ih => exact crlf rest ih
  | case3 c rest hno hc ih =>
    refine single c rest hc ?_ ih
    rintro ⟨hcr, hlf⟩
    obtain ⟨u, hu⟩ := List.head?_eq_some_iff.mp hlf
    exact hno u (by simpa using hcr) hu
  | case4 c rest hno hc ih => exact other c rest (by simpa using hc) ih

theorem breaks_single {c : Char} {t : Text} (hc : isBreak c = true) (h : ¬ SplitsBreak [c] t) :
    breaks (c :: t) = breaks t + 1 := by
  rw [breaks, if_pos hc]
  rintro u rfl rfl
  exact h ⟨rfl, rfl⟩

theorem breaks_other {c : Char} {t : Text} (hc : isBreak c = false) :
    breaks (c :: t) = breaks t := by
  rw [breaks, if_neg (by simp [hc])]
  rintro u rfl rfl
  cases hc

theorem segments_single {c : Char} {t : Text} (hc : isBreak c = true) (h : ¬ SplitsBreak [c] t) :
    segments (c :: t) = [] :: segments t := by
  rw [segments, if_pos hc]
  rintro u rfl rfl
  exact h ⟨rfl, rfl⟩

/-- A line feed never goes on with the character after it. -/
theorem segments_lf (t : Text) : segments ('\n' :: t) = [] :: segments t :=
  segments_single rfl fun h => by cases h.1

theorem segments_other {c : Char} {t : Text} (hc : isBreak c = false) :
    segments (c :: t) = (segments t).modifyHead (c :: ·) := by
  rw [segments, if_neg (by simp [hc])]
  rintro u rfl rfl
  cases hc

/-- **There is one segment more than there are breaks.** -/
theorem length_segments (t : Text) : (segments t).length = breaks t + 1 := by
  induction t using scan_induction with
  | nil => rfl
  | crlf t ih => rw [segments, breaks, List.length_cons, ih]
  | single c t hc hseam ih =>
    rw [segments_single hc hseam, breaks_single hc hseam, List.length_cons, ih]
  | other c t hc ih => rw [segments_other hc, breaks_other hc, List.length_modifyHead, ih]

theorem segments_ne_nil (t : Text) : segments t ≠ [] := by
  intro h
  have hlen := length_segments t
  rw [h] at hlen
  cases hlen

/-- Only the empty text is one empty segment. -/
theorem eq_nil_of_segments {t : Text} (h : segments t = [[]]) : t = [] := by
  induction t using scan_induction with
  | nil => rfl
  | crlf t ih =>
    rw [segments, List.cons.injEq] at h
    exact absurd h.2 (segments_ne_nil t)
  | single c t hc hseam ih =>
    rw [segments_single hc hseam, List.cons.injEq] at h
    exact absurd h.2 (segments_ne_nil t)
  | other c t hc ih =>
    rw [segments_other hc] at h
    obtain ⟨s, ss, hs⟩ := List.exists_cons_of_ne_nil (segments_ne_nil t)
    rw [hs, List.modifyHead_cons, List.cons.injEq] at h
    cases h.1

/-- Characters in front of a text that are no breaks belong to its first segment. -/
theorem segments_append_of_unbroken {l : Text} (h : ∀ c ∈ l, isBreak c = false) (t : Text) :
    segments (l ++ t) = (segments t).modifyHead (l ++ ·) := by
  induction l with
  | nil =>
    rw [List.nil_append]
    cases segments t <;> rfl
  | cons c l ih =>
    rw [List.forall_mem_cons] at h
    rw [List.cons_append, segments_other h.1, ih h.2, List.modifyHead_modifyHead]
    rfl

theorem segments_of_unbroken {t : Text} (h : ∀ c ∈ t, isBreak c = false) : segments t = [t] := by
  have hsegments := segments_append_of_unbroken h []
  rwa [List.append_nil, segments, List.modifyHead_cons, List.append_nil] at hsegments

/-! ## The library's lines -/

theorem dropReturn_cons {c : Char} {piece : Text} (h : c ≠ '\r' ∨ piece ≠ []) :
    dropReturn (c :: piece) = c :: dropReturn piece := by
  cases piece with
  | nil =>
    have hc : c ≠ '\r' := h.resolve_right fun hne => hne rfl
    rw [dropReturn, if_neg (by simpa using hc)]
    rfl
  | cons b piece =>
    rw [dropReturn, dropReturn, List.getLast?_cons_cons, List.dropLast_cons_cons]
    split
    · rfl
    · rfl

theorem lines_ne_nil (t : Text) : lines t ≠ [] := by
  obtain ⟨p, ps, hp⟩ := List.exists_cons_of_ne_nil (List.splitOn_ne_nil '\n' t)
  rw [lines, hp, List.flatMap_cons]
  simp

theorem lines_lf (t : Text) : lines ('\n' :: t) = [] :: lines t := by
  rw [lines, List.splitOn_cons_eq_if_modifyHead, if_pos (by rfl), List.flatMap_cons]
  rfl

theorem lines_crlf (t : Text) : lines ('\r' :: '\n' :: t) = [] :: lines t := by
  rw [lines, List.splitOn_cons_eq_if_modifyHead, if_neg (by decide),
    List.splitOn_cons_eq_if_modifyHead, if_pos (by rfl), List.modifyHead_cons, List.flatMap_cons]
  rfl

/-- A carriage return before anything but a line feed ends a line, unless it ends the text. -/
theorem lines_cr {b : Char} (hb : b ≠ '\n') (t : Text) :
    lines ('\r' :: b :: t) = [] :: lines (b :: t) := by
  obtain ⟨p, ps, hp⟩ := List.exists_cons_of_ne_nil (List.splitOn_ne_nil '\n' t)
  have hsplit : (b :: t).splitOn '\n' = (b :: p) :: ps := by
    rw [List.splitOn_cons_eq_if_modifyHead, if_neg (by simpa using hb), hp, List.modifyHead_cons]
  rw [lines, lines, List.splitOn_cons_eq_if_modifyHead, if_neg (by decide), hsplit,
    List.modifyHead_cons, List.flatMap_cons, List.flatMap_cons, dropReturn_cons (.inr (by simp)),
    List.splitOn_cons_eq_if_modifyHead, if_pos (by rfl)]
  rfl

/-- Any other character belongs to the line it starts. -/
theorem lines_other {c : Char} (hc : isBreak c = false) (t : Text) :
    lines (c :: t) = (lines t).modifyHead (c :: ·) := by
  have hlf : c ≠ '\n' := by rintro rfl; cases hc
  have hcr : c ≠ '\r' := by rintro rfl; cases hc
  obtain ⟨p, ps, hp⟩ := List.exists_cons_of_ne_nil (List.splitOn_ne_nil '\n' t)
  obtain ⟨q, qs, hq⟩ := List.exists_cons_of_ne_nil (List.splitOn_ne_nil '\r' (dropReturn p))
  rw [lines, lines, List.splitOn_cons_eq_if_modifyHead, if_neg (by simpa using hlf), hp,
    List.modifyHead_cons, List.flatMap_cons, List.flatMap_cons, dropReturn_cons (.inl hcr),
    List.splitOn_cons_eq_if_modifyHead, if_neg (by simpa using hcr), hq]
  rfl

/-- **The two ways of cutting a text agree**, but for the empty segment after a carriage return
that ends it. -/
theorem segments_eq (t : Text) :
    segments t = lines t ++ if t.getLast? = some '\r' then [[]] else [] := by
  induction t using scan_induction with
  | nil => rfl
  | crlf t ih =>
    rw [segments, lines_crlf, ih, List.cons_append]
    cases t with
    | nil => rfl
    | cons b t => rw [List.getLast?_cons_cons, List.getLast?_cons_cons]
  | single c t hc hseam ih =>
    rw [segments_single hc hseam]
    cases t with
    | nil =>
      rcases Bool.or_eq_true_iff.mp hc with hlf | hcr
      · rw [beq_iff_eq.mp hlf]; rfl
      · rw [beq_iff_eq.mp hcr]; rfl
    | cons b t =>
      rw [ih, List.getLast?_cons_cons, ← List.cons_append]
      congr 1
      rcases Bool.or_eq_true_iff.mp hc with hlf | hcr
      · rw [beq_iff_eq.mp hlf, lines_lf]
      · rw [beq_iff_eq.mp hcr] at hseam ⊢
        refine (lines_cr ?_ t).symm
        rintro rfl
        exact hseam ⟨rfl, rfl⟩
  | other c t hc ih =>
    obtain ⟨l, ls, hl⟩ := List.exists_cons_of_ne_nil (lines_ne_nil t)
    rw [segments_other hc, lines_other hc, ih, hl, List.cons_append, List.modifyHead_cons,
      List.modifyHead_cons, List.cons_append]
    congr 3
    cases t with
    | nil =>
      have hcr : c ≠ '\r' := by rintro rfl; cases hc
      simpa using hcr
    | cons b t => rw [List.getLast?_cons_cons]

example : segments ['a', '\r', '\r', '\n', 'b'] = lines ['a', '\r', '\r', '\n', 'b'] := by decide

/-! ## Ends of lines -/

/-- Whether a text stops where a line may start: at the front, or after a break. -/
def EndsLine (t : Text) : Prop := t = [] ∨ t.getLast? = some '\n' ∨ t.getLast? = some '\r'

theorem endsLine_cons {c : Char} {t : Text} (ht : t ≠ []) : EndsLine (c :: t) ↔ EndsLine t := by
  obtain ⟨b, u, rfl⟩ := List.exists_cons_of_ne_nil ht
  rw [EndsLine, EndsLine, List.getLast?_cons_cons]
  simp

theorem EndsLine.tail {c : Char} {t : Text} (h : EndsLine (c :: t)) : EndsLine t := by
  by_cases ht : t = []
  · exact .inl ht
  · exact (endsLine_cons ht).mp h

/-- A break in front of a text does not change whether it ends a line. -/
theorem EndsLine.cons_isBreak {c : Char} {t : Text} (hc : isBreak c = true) (h : EndsLine t) :
    EndsLine (c :: t) := by
  by_cases ht : t = []
  · subst ht
    rw [isBreak, Bool.or_eq_true, beq_iff_eq, beq_iff_eq] at hc
    exact .inr (hc.imp (congrArg some) (congrArg some))
  · exact (endsLine_cons ht).mpr h

/-- A text that ends a line has a break in it, or nothing. -/
theorem ne_nil_of_endsLine {c : Char} {t : Text} (hc : isBreak c = false) (h : EndsLine (c :: t)) :
    t ≠ [] := by
  rintro rfl
  rcases h with h | h | h
  · cases h
  · cases h
    cases hc
  · cases h
    cases hc

theorem splitsBreak_cons {c : Char} {t u : Text} (ht : t ≠ []) :
    SplitsBreak (c :: t) u ↔ SplitsBreak t u := by
  obtain ⟨b, v, rfl⟩ := List.exists_cons_of_ne_nil ht
  rw [SplitsBreak, SplitsBreak, List.getLast?_cons_cons]

theorem SplitsBreak.cons {t u : Text} (h : SplitsBreak t u) (c : Char) : SplitsBreak (c :: t) u := by
  refine (splitsBreak_cons ?_).mpr h
  rintro rfl
  cases h.1

/-- Only what comes first after a carriage return matters for its break. -/
theorem SplitsBreak.append {t u : Text} (h : SplitsBreak t u) (v : Text) : SplitsBreak t (u ++ v) := by
  obtain ⟨w, rfl⟩ := List.head?_eq_some_iff.mp h.2
  exact ⟨h.1, rfl⟩

/-- A text with something in it keeps apart what stands before it and what comes after it. -/
theorem not_splitsBreak_append {s t : Text} (ht : t ≠ []) (h : ¬ SplitsBreak s t) (u : Text) :
    ¬ SplitsBreak s (t ++ u) := by
  obtain ⟨b, v, rfl⟩ := List.exists_cons_of_ne_nil ht
  exact h

/-! ## Concatenation -/

/-- **Segments go through concatenation** where a line ends: the last segment of the first text
is empty, and the segments of the second take its place. -/
theorem segments_append {t u : Text} (ht : EndsLine t) (hseam : ¬ SplitsBreak t u) :
    ∃ pre, segments t = pre ++ [[]] ∧ segments (t ++ u) = pre ++ segments u := by
  induction t using scan_induction with
  | nil => exact ⟨[], rfl, rfl⟩
  | crlf t ih =>
    obtain ⟨pre, hpre, happ⟩ := ih ht.tail.tail fun h => hseam ((h.cons _).cons _)
    refine ⟨[] :: pre, ?_, ?_⟩
    · rw [segments, hpre, List.cons_append]
    · rw [List.cons_append, List.cons_append, segments, happ, List.cons_append]
  | single c t hc hct ih =>
    obtain ⟨pre, hpre, happ⟩ := ih ht.tail fun h => hseam (h.cons _)
    have hcu : ¬ SplitsBreak [c] (t ++ u) := by
      by_cases hnil : t = []
      · subst hnil
        exact hseam
      · exact not_splitsBreak_append hnil hct u
    refine ⟨[] :: pre, ?_, ?_⟩
    · rw [segments_single hc hct, hpre, List.cons_append]
    · rw [List.cons_append, segments_single hc hcu, happ, List.cons_append]
  | other c t hc ih =>
    have hne : t ≠ [] := ne_nil_of_endsLine hc ht
    obtain ⟨pre, hpre, happ⟩ := ih ht.tail fun h => hseam (h.cons _)
    rcases pre with _ | ⟨s, pre⟩
    · exact absurd (eq_nil_of_segments hpre) hne
    · refine ⟨(c :: s) :: pre, ?_, ?_⟩
      · rw [segments_other hc, hpre, List.cons_append, List.modifyHead_cons, List.cons_append]
      · rw [List.cons_append, segments_other hc, happ, List.cons_append, List.modifyHead_cons,
          List.cons_append]

/-- A break in front of a text is followed by the text's segments, or, where the text starts with
the second character of that break, by those of the rest. -/
theorem segments_cons_isBreak {c : Char} (hc : isBreak c = true) (t : Text) :
    ∃ rest, segments (c :: t) = [] :: segments rest ∧ (rest = t ∨ t = '\n' :: rest) := by
  by_cases hct : SplitsBreak [c] t
  · obtain ⟨rest, rfl⟩ := List.head?_eq_some_iff.mp hct.2
    have hcr : c = '\r' := Option.some.inj hct.1
    subst hcr
    exact ⟨rest, by rw [segments], .inr rfl⟩
  · exact ⟨t, segments_single hc hct, .inl rfl⟩

/-- **A text that goes on keeps its segments but the last**, and the last one goes on. There is no
condition on the seam: where a break is cut in two, the segment after it is empty on either side. -/
theorem segments_append_last (t u : Text) :
    ∃ pre last more rest, segments t = pre ++ [last]
      ∧ segments (t ++ u) = pre ++ (last ++ more) :: rest := by
  induction t using scan_induction with
  | nil =>
    obtain ⟨s, ss, hs⟩ := List.exists_cons_of_ne_nil (segments_ne_nil u)
    exact ⟨[], [], s, ss, rfl, hs⟩
  | crlf t ih =>
    obtain ⟨pre, last, more, rest, ht, htu⟩ := ih
    refine ⟨[] :: pre, last, more, rest, ?_, ?_⟩
    · rw [segments, ht, List.cons_append]
    · rw [List.cons_append, List.cons_append, segments, htu, List.cons_append]
  | single c t hc hct ih =>
    by_cases hnil : t = []
    · -- the break may go on in `u`; either way an empty segment stands before it
      subst hnil
      obtain ⟨v, hv, -⟩ := segments_cons_isBreak hc u
      obtain ⟨s, ss, hs⟩ := List.exists_cons_of_ne_nil (segments_ne_nil v)
      refine ⟨[[]], [], s, ss, ?_, ?_⟩
      · rw [segments_single hc hct]
        rfl
      · rw [List.singleton_append, hv, hs]
        rfl
    · obtain ⟨pre, last, more, rest, ht, htu⟩ := ih
      have hcu : ¬ SplitsBreak [c] (t ++ u) := not_splitsBreak_append hnil hct u
      refine ⟨[] :: pre, last, more, rest, ?_, ?_⟩
      · rw [segments_single hc hct, ht, List.cons_append]
      · rw [List.cons_append, segments_single hc hcu, htu, List.cons_append]
  | other c t hc ih =>
    obtain ⟨pre, last, more, rest, ht, htu⟩ := ih
    rcases pre with _ | ⟨s, pre⟩
    · refine ⟨[], c :: last, more, rest, ?_, ?_⟩
      · rw [segments_other hc, ht]
        rfl
      · rw [List.cons_append, segments_other hc, htu]
        rfl
    · refine ⟨(c :: s) :: pre, last, more, rest, ?_, ?_⟩
      · rw [segments_other hc, ht]
        rfl
      · rw [List.cons_append, segments_other hc, htu]
        rfl

/-! ## Places of lines -/

/-- A text cut at one of its lines: the line is unbroken, there is an end of line or nothing on
either side of it, and it does not stand between the two characters of one break. -/
structure LineAt (t before line after : Text) : Prop where
  text_eq : t = before ++ line ++ after
  unbroken : ∀ c ∈ line, isBreak c = false
  before_ends : EndsLine before
  after_starts : ∀ c ∈ after.head?, isBreak c = true
  whole : line = [] → ¬ SplitsBreak before after

/-- The first line of a text that starts with a break is empty. -/
theorem LineAt.nil_of_head {t : Text} (h : ∀ c ∈ t.head?, isBreak c = true) : LineAt t [] [] t where
  text_eq := rfl
  unbroken := by simp
  before_ends := .inl rfl
  after_starts := h
  whole := fun _ hsplit => by cases hsplit.1

/-- The two characters of one break in front of a text leave its lines where they are. -/
theorem LineAt.crlf {t before line after : Text} (h : LineAt t before line after) :
    LineAt ('\r' :: '\n' :: t) ('\r' :: '\n' :: before) line after where
  text_eq := by rw [h.text_eq]; rfl
  unbroken := h.unbroken
  before_ends := (h.before_ends.cons_isBreak rfl).cons_isBreak rfl
  after_starts := h.after_starts
  whole := by
    intro hline hsplit
    rw [splitsBreak_cons (by simp)] at hsplit
    by_cases hnil : before = []
    · subst hnil
      cases hsplit.1
    · exact h.whole hline ((splitsBreak_cons hnil).mp hsplit)

/-- So does a break of one character, which is cut off from no other. -/
theorem LineAt.single {c : Char} {t before line after : Text} (h : LineAt t before line after)
    (hc : isBreak c = true) (hct : ¬ SplitsBreak [c] t) :
    LineAt (c :: t) (c :: before) line after where
  text_eq := by rw [h.text_eq]; rfl
  unbroken := h.unbroken
  before_ends := h.before_ends.cons_isBreak hc
  after_starts := h.after_starts
  whole := by
    intro hline hsplit
    by_cases hnil : before = []
    · -- nothing stands between `c` and what comes after the line
      have ht : t = after := by rw [h.text_eq, hnil, hline]; rfl
      rw [hnil, ← ht] at hsplit
      exact hct hsplit
    · exact h.whole hline ((splitsBreak_cons hnil).mp hsplit)

/-- Any other character in front of a text belongs to its first line. -/
theorem LineAt.other_first {c : Char} {t line after : Text} (h : LineAt t [] line after)
    (hc : isBreak c = false) : LineAt (c :: t) [] (c :: line) after where
  text_eq := by rw [h.text_eq]; rfl
  unbroken := List.forall_mem_cons.mpr ⟨hc, h.unbroken⟩
  before_ends := .inl rfl
  after_starts := h.after_starts
  whole := fun hline => by cases hline

/-- It leaves the later lines where they are. -/
theorem LineAt.other_later {c : Char} {t before line after : Text} (h : LineAt t before line after)
    (hne : before ≠ []) : LineAt (c :: t) (c :: before) line after where
  text_eq := by rw [h.text_eq]; rfl
  unbroken := h.unbroken
  before_ends := (endsLine_cons hne).mpr h.before_ends
  after_starts := h.after_starts
  whole := fun hline hsplit => h.whole hline ((splitsBreak_cons hne).mp hsplit)

/-- **Every segment stands at a place of the text**, and the segments before it are those of what
stands before that place. -/
theorem lineAt_of_segments {t : Text} {pre : List Text} {line : Text} {post : List Text}
    (h : segments t = pre ++ line :: post) :
    ∃ before after, LineAt t before line after ∧ segments before = pre ++ [[]] := by
  induction t using scan_induction generalizing pre line post with
  | nil =>
    rcases pre with _ | ⟨s, pre⟩
    · cases h
      exact ⟨[], [], .nil_of_head (by simp), rfl⟩
    · cases pre <;> cases h
  | crlf t ih =>
    rcases pre with _ | ⟨s, pre⟩
    · rw [segments, List.nil_append, List.cons.injEq] at h
      rw [← h.1]
      exact ⟨[], _, .nil_of_head (by simp [isBreak]), rfl⟩
    · rw [segments, List.cons_append, List.cons.injEq] at h
      obtain ⟨before, after, hat, hbefore⟩ := ih h.2
      refine ⟨'\r' :: '\n' :: before, after, hat.crlf, ?_⟩
      rw [segments, hbefore, ← h.1, List.cons_append]
  | single c t hc hct ih =>
    rw [segments_single hc hct] at h
    rcases pre with _ | ⟨s, pre⟩
    · rw [List.nil_append, List.cons.injEq] at h
      rw [← h.1]
      exact ⟨[], _, .nil_of_head (by simpa using hc), rfl⟩
    · rw [List.cons_append, List.cons.injEq] at h
      obtain ⟨before, after, hat, hbefore⟩ := ih h.2
      have hcb : ¬ SplitsBreak [c] before := by
        intro hsplit
        rw [hat.text_eq, List.append_assoc] at hct
        exact hct (hsplit.append _)
      refine ⟨c :: before, after, hat.single hc hct, ?_⟩
      rw [segments_single hc hcb, hbefore, ← h.1, List.cons_append]
  | other c t hc ih =>
    obtain ⟨s, ss, hs⟩ := List.exists_cons_of_ne_nil (segments_ne_nil t)
    rw [segments_other hc, hs, List.modifyHead_cons] at h
    rcases pre with _ | ⟨r, pre⟩
    · -- the line is the first one, and the rest of it is the first line of `t`
      rw [List.nil_append, List.cons.injEq] at h
      have hfirst : segments t = [] ++ s :: ss := hs
      obtain ⟨before, after, hat, hbefore⟩ := ih hfirst
      have hnil : before = [] := eq_nil_of_segments hbefore
      subst hnil
      rw [← h.1]
      exact ⟨[], after, hat.other_first hc, rfl⟩
    · -- the line is a later one, and the same later one of `t`
      rw [List.cons_append, List.cons.injEq] at h
      have hlater : segments t = (s :: pre) ++ line :: post := by rw [hs, h.2, List.cons_append]
      obtain ⟨before, after, hat, hbefore⟩ := ih hlater
      have hne : before ≠ [] := by
        rintro rfl
        cases pre <;> cases hbefore
      refine ⟨c :: before, after, hat.other_later hne, ?_⟩
      rw [segments_other hc, hbefore, ← h.1]
      rfl

/-- Every line of a text stands at a place of it, with as many breaks before that place as there
are lines before the line. -/
theorem lineAt_of_lines {t : Text} {pre : List Text} {line : Text} {post : List Text}
    (h : lines t = pre ++ line :: post) :
    ∃ before after, LineAt t before line after ∧ breaks before = pre.length := by
  have hsegments := segments_eq t
  rw [h, List.append_assoc, List.cons_append] at hsegments
  obtain ⟨before, after, hat, hbefore⟩ := lineAt_of_segments hsegments
  have hlen := length_segments before
  rw [hbefore, List.length_append, List.length_singleton] at hlen
  exact ⟨before, after, hat, by omega⟩

/-- A text without breaks is one line. -/
theorem lines_of_unbroken {t : Text} (h : ∀ c ∈ t, isBreak c = false) : lines t = [t] := by
  have hlast : t.getLast? ≠ some '\r' := by
    intro hcr
    have hmem := h '\r' (List.mem_of_getLast? hcr)
    cases hmem
  have hsegments := segments_eq t
  rw [if_neg hlast, List.append_nil, segments_of_unbroken h] at hsegments
  exact hsegments.symm

end SqlStates.Text
