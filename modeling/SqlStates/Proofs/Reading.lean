/-
Reading lines: what a run over a row of lines comes to.

A line is one of three things: passed over, a data line, or malformed. The run over
many lines is described by two functions of the lines alone. `accepted` is the row of
entries on the data lines, all of which go into the catalog, and `firstFault` is the
error of the first malformed line, which is what ends the run. Neither depends on the
catalog that the run starts from, and both go through concatenation.
-/
import SqlStates.Proofs.Lines
import SqlStates.Proofs.Words

set_option autoImplicit false

namespace SqlStates.Catalog

open Text (lines segments trim)

/-! ## One line -/

/-- Whether a line ought to be a data line and is none: trimmed, it is not passed over, and it
cannot be read. -/
def Malformed (raw : Text) : Prop :=
  isSkipped (trim raw) = false ∧ ∃ fault, Entry.parse (trim raw) = .error fault

/-- The three things a line can be. -/
theorem readLine_cases (number : Nat) (raw : Text) :
    (isSkipped (trim raw) = true ∧ readLine number raw = .ok none)
      ∨ (∃ entry, isSkipped (trim raw) = false ∧ Entry.parse (trim raw) = .ok entry
          ∧ readLine number raw = .ok (some entry))
      ∨ ∃ fault, isSkipped (trim raw) = false ∧ Entry.parse (trim raw) = .error fault
          ∧ readLine number raw = .error ⟨number, trim raw, fault⟩ := by
  unfold readLine
  by_cases hskip : isSkipped (trim raw) = true
  · exact .inl ⟨hskip, if_pos hskip⟩
  · have hread : isSkipped (trim raw) = false := by simpa using hskip
    refine .inr ?_
    cases hparse : Entry.parse (trim raw) with
    | ok entry => exact .inl ⟨entry, hread, rfl, by simp [hread, hparse]⟩
    | error fault => exact .inr ⟨fault, hread, rfl, by simp [hread, hparse]⟩

/-- The error of a line, if it is malformed. -/
def fault? (number : Nat) (raw : Text) : Option FormatError :=
  match readLine number raw with
  | .error e => some e
  | .ok _ => none

theorem fault?_eq_some_iff {number : Nat} {raw : Text} {e : FormatError} :
    fault? number raw = some e ↔
      isSkipped (trim raw) = false ∧ Entry.parse (trim raw) = .error e.fault
        ∧ e.line = number ∧ e.text = trim raw := by
  unfold fault?
  rcases readLine_cases number raw with ⟨hskip, h⟩ | ⟨entry, -, hparse, h⟩ | ⟨fault, hread, hparse, h⟩
  · simp [h, hskip]
  · simp [h, hparse]
  · simp only [h, hread, hparse, true_and, Option.some.injEq, Except.error.injEq]
    constructor
    · rintro rfl
      exact ⟨rfl, rfl, rfl⟩
    · rintro ⟨hfault, hline, htext⟩
      rw [hfault, ← hline, ← htext]

theorem fault?_eq_none_iff {number : Nat} {raw : Text} :
    fault? number raw = none ↔ ¬ Malformed raw := by
  constructor
  · rintro h ⟨hread, fault, hparse⟩
    have hsome : fault? number raw = some ⟨number, trim raw, fault⟩ :=
      fault?_eq_some_iff.mpr ⟨hread, hparse, rfl, rfl⟩
    rw [h] at hsome
    cases hsome
  · intro h
    rw [Option.eq_none_iff_forall_not_mem]
    intro e he
    obtain ⟨hread, hparse, -, -⟩ := fault?_eq_some_iff.mp he
    exact h ⟨hread, _, hparse⟩

/-- The error of a line has the line's number, and nothing else of it comes from there. -/
theorem fault?_add (number k : Nat) (raw : Text) :
    fault? (number + k) raw = (fault? number raw).map fun e => { e with line := e.line + k } := by
  unfold fault?
  rcases readLine_cases number raw with ⟨hskip, h⟩ | ⟨entry, hread, hparse, h⟩ | ⟨fault, hread, hparse, h⟩
  · rw [h, readLine, if_pos hskip]
    rfl
  · rw [h]
    simp [readLine, hread, hparse]
  · rw [h]
    simp [readLine, hread, hparse]

/-- An empty line is passed over. -/
theorem fault?_nil (number : Nat) : fault? number [] = none := rfl

/-! ## Many lines -/

/-- The entries on lines that can be read, whether or not a line would be passed over. -/
def accepted (ls : List Text) : List Entry := ls.filterMap fun raw => (Entry.parse raw).toOption

/-- The error of the first malformed one of lines, the first of them having a number. -/
def firstFault (number : Nat) : List Text → Option FormatError
  | [] => none
  | raw :: rest => (fault? number raw).or (firstFault (number + 1) rest)

theorem accepted_append (xs ys : List Text) : accepted (xs ++ ys) = accepted xs ++ accepted ys :=
  List.filterMap_append

theorem accepted_nil_line : accepted [[]] = [] := rfl

theorem accepted_cons_of_ok {raw : Text} {entry : Entry} (h : Entry.parse raw = .ok entry)
    (rest : List Text) : accepted (raw :: rest) = entry :: accepted rest := by
  rw [accepted, List.filterMap_cons_some (b := entry) (by rw [h]; rfl), accepted]

theorem accepted_cons_of_error {raw : Text} {fault : LineFault} (h : Entry.parse raw = .error fault)
    (rest : List Text) : accepted (raw :: rest) = accepted rest := by
  rw [accepted, List.filterMap_cons_none (by rw [h]; rfl), accepted]

/-- The lines before the first malformed one, itself, and the lines after it. -/
theorem firstFault_eq_some {number : Nat} {ls : List Text} {e : FormatError}
    (h : firstFault number ls = some e) :
    ∃ pre raw post, ls = pre ++ raw :: post ∧ (∀ l ∈ pre, ¬ Malformed l)
      ∧ fault? (number + pre.length) raw = some e := by
  induction ls generalizing number with
  | nil => cases h
  | cons raw rest ih =>
    rw [firstFault, Option.or_eq_some_iff] at h
    rcases h with h | ⟨hraw, hrest⟩
    · exact ⟨[], raw, rest, rfl, by simp, h⟩
    · obtain ⟨pre, bad, post, rfl, hpre, hbad⟩ := ih hrest
      refine ⟨raw :: pre, bad, post, rfl, ?_, ?_⟩
      · exact List.forall_mem_cons.mpr ⟨fault?_eq_none_iff.mp hraw, hpre⟩
      · -- the rest is counted from the next number
        rw [List.length_cons, Nat.add_comm pre.length, ← Nat.add_assoc]
        exact hbad

theorem firstFault_eq_none_iff {number : Nat} {ls : List Text} :
    firstFault number ls = none ↔ ∀ l ∈ ls, ¬ Malformed l := by
  induction ls generalizing number with
  | nil => simp [firstFault]
  | cons raw rest ih =>
    rw [firstFault, Option.or_eq_none_iff, fault?_eq_none_iff, ih, List.forall_mem_cons]

/-- The first malformed line is one of the lines, and its number says so. -/
theorem line_of_firstFault {number : Nat} {ls : List Text} {e : FormatError}
    (h : firstFault number ls = some e) : number ≤ e.line ∧ e.line < number + ls.length := by
  obtain ⟨pre, raw, post, rfl, -, hraw⟩ := firstFault_eq_some h
  obtain ⟨-, -, hline, -⟩ := fault?_eq_some_iff.mp hraw
  rw [List.length_append, List.length_cons]
  omega

/-- The first malformed line of two rows of lines is that of the first row, if it has one. -/
theorem firstFault_append (number : Nat) (xs ys : List Text) :
    firstFault number (xs ++ ys) =
      (firstFault number xs).or (firstFault (number + xs.length) ys) := by
  induction xs generalizing number with
  | nil => rfl
  | cons raw rest ih =>
    have hnumber : number + (raw :: rest).length = number + 1 + rest.length := by
      rw [List.length_cons]
      omega
    rw [List.cons_append, firstFault, firstFault, ih, Option.or_assoc, hnumber]

/-- Counting from a later number moves the number of the first malformed line. -/
theorem firstFault_add (number k : Nat) (ls : List Text) :
    firstFault (number + k) ls =
      (firstFault number ls).map fun e => { e with line := e.line + k } := by
  induction ls generalizing number with
  | nil => rfl
  | cons raw rest ih =>
    rw [firstFault, firstFault, fault?_add, Nat.add_right_comm, ih, Option.map_or]

/-! ## The run -/

/-- The run fails with the error of the first malformed line, whatever catalog it starts from. -/
theorem failure_readLines (c : Catalog) (number : Nat) (ls : List Text) :
    (readLines c number ls).failure = firstFault number ls := by
  induction ls generalizing c number with
  | nil => rfl
  | cons raw rest ih =>
    unfold readLines firstFault fault?
    rcases readLine_cases number raw with ⟨-, h⟩ | ⟨entry, -, -, h⟩ | ⟨fault, -, -, h⟩
    · rw [h]
      exact ih c (number + 1)
    · rw [h]
      exact ih (c.insert entry) (number + 1)
    · rw [h]
      rfl

/-- A run without a malformed line puts every entry it can read into the catalog. A line that is
passed over has none, so nothing is lost there. -/
theorem catalog_readLines (c : Catalog) (number : Nat) {ls : List Text}
    (h : ∀ l ∈ ls, ¬ Malformed l) :
    (readLines c number ls).catalog = (accepted ls).foldl insert c := by
  induction ls generalizing c number with
  | nil => rfl
  | cons raw rest ih =>
    rw [List.forall_mem_cons] at h
    unfold readLines
    rcases readLine_cases number raw with ⟨hskip, hline⟩ | ⟨entry, -, hparse, hline⟩ | ⟨fault, hread, hparse, -⟩
    · -- the line is passed over and adds nothing to `accepted` either
      obtain ⟨fault, hparse⟩ := parse_eq_error_of_isSkipped hskip
      rw [hline, accepted_cons_of_error hparse]
      exact ih c (number + 1) h.2
    · -- reading takes the line trimmed, `accepted` as it stands
      rw [Entry.parse_trim] at hparse
      rw [hline, accepted_cons_of_ok hparse]
      exact ih (c.insert entry) (number + 1) h.2
    · exact absurd ⟨hread, fault, hparse⟩ h.1

/-! ## Texts -/

/-- The segments of a text have what its lines have, since an empty one says nothing. -/
theorem firstFault_segments (t : Text) : firstFault 1 (segments t) = firstFault 1 (lines t) := by
  rw [Text.segments_eq, firstFault_append]
  split
  · rw [firstFault, fault?_nil]
    exact Option.or_none
  · exact Option.or_none

theorem accepted_segments (t : Text) : accepted (segments t) = accepted (lines t) := by
  rw [Text.segments_eq, accepted_append]
  split
  · rw [accepted_nil_line, List.append_nil]
  · exact List.append_nil _

/-- An empty line after all others changes nothing. -/
theorem readLines_append_nil (c : Catalog) (number : Nat) (ls : List Text) :
    readLines c number (ls ++ [[]]) = readLines c number ls := by
  induction ls generalizing c number with
  | nil => rfl
  | cons raw rest ih =>
    rw [List.cons_append, readLines, readLines]
    rcases readLine_cases number raw with ⟨-, h⟩ | ⟨entry, -, -, h⟩ | ⟨fault, -, -, h⟩
    · rw [h]
      exact ih c (number + 1)
    · rw [h]
      exact congrArg (Reading.after · (c.repeat? entry)) (ih (c.insert entry) (number + 1))
    · rw [h]

/-- A text may be read by its segments. -/
theorem read_eq_segments (t : Text) : read t = readLines empty 1 (segments t) := by
  rw [Text.segments_eq]
  split
  · rw [readLines_append_nil, read]
  · rw [List.append_nil, read]

/-- A text cannot be read exactly if it has a first malformed line. -/
theorem parse_eq_error_iff {t : Text} {e : FormatError} :
    parse t = .error e ↔ firstFault 1 (lines t) = some e := by
  rw [← failure_readLines empty, parse, read]
  cases (readLines empty 1 (lines t)).failure with
  | none => simp
  | some e' => simp

/-- A text can be read exactly if it has no malformed line, and then all its entries count. -/
theorem parse_eq_ok_iff {t : Text} {c : Catalog} :
    parse t = .ok c ↔
      firstFault 1 (lines t) = none ∧ c = (accepted (lines t)).foldl insert empty := by
  rw [parse, read, failure_readLines]
  cases h : firstFault 1 (lines t) with
  | none =>
    rw [catalog_readLines empty 1 (firstFault_eq_none_iff.mp h)]
    simp [eq_comm]
  | some e => simp

/-- The same of the segments of a text, which is what its lines are looked for by. -/
theorem parse_eq_error_iff_segments {t : Text} {e : FormatError} :
    parse t = .error e ↔ firstFault 1 (segments t) = some e := by
  rw [parse_eq_error_iff, firstFault_segments]

theorem parse_eq_ok_iff_segments {t : Text} {c : Catalog} :
    parse t = .ok c ↔
      firstFault 1 (segments t) = none ∧ c = (accepted (segments t)).foldl insert empty := by
  rw [parse_eq_ok_iff, firstFault_segments, accepted_segments]

end SqlStates.Catalog
