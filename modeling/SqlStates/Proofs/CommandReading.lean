/-
The command lines that are accepted.

Both sides of the mode are read argument by argument; before it, the name of a mode ends the side
where no value is awaited. So the reader accepts just the command lines of the grammar whose rows
of options can be taken (`CommandLine.parse_eq_ok_iff`), and what holds of every command line of
the grammar holds of every one that is accepted.
-/
import SqlStates.Proofs.SideReading

set_option autoImplicit false

namespace SqlStates

open Argument (IsPlain)
open Setting (Admissible)

namespace Side

/-- Arguments that are met after the mode have done their part. -/
theorem readAfter_append_of_ok {s t : Side} {a : List Text} (h : s.takeAll false a = .ok t)
    (rest : List Text) : s.readAfter (a ++ rest) = t.readAfter rest := by
  induction a generalizing s with
  | nil =>
    cases h
    rfl
  | cons argument a ih =>
    obtain ⟨u, hu, ha⟩ := takeAll_cons_eq_ok_iff.mp h
    rw [List.cons_append, readAfter]
    split
    · next hform =>
      -- a separator is not met
      rw [hform] at hu
      cases hu
    · rw [hu]
      exact ih ha

/-- The arguments after the mode are met one after the other, but for a separator at the end. -/
theorem readAfter_eq_ok_iff {s : Side} {arguments : List Text} {m : Settings} :
    s.readAfter arguments = .ok m ↔ ∃ a ending u, arguments = a ++ ending
      ∧ ending ∈ CommandLine.ends ∧ s.takeAll false a = .ok u ∧ u.settle = .ok m := by
  constructor
  · intro h
    induction arguments generalizing s with
    | nil => exact ⟨[], [], s, rfl, by simp [CommandLine.ends], rfl, h⟩
    | cons argument rest ih =>
      rw [readAfter] at h
      split at h
      · next hform =>
        have hargument := Argument.eq_of_separator hform
        cases rest with
        | nil => exact ⟨[], [argument], s, rfl, by simp [CommandLine.ends, hargument], rfl, h⟩
        | cons next rest => cases h
      · split at h
        · cases h
        · next t ht =>
          obtain ⟨a, ending, u, rfl, hending, hu, hsettle⟩ := ih h
          have htake := takeAll_cons_eq_ok_iff.mpr ⟨t, ht, hu⟩
          exact ⟨argument :: a, ending, u, rfl, hending, htake, hsettle⟩
  · rintro ⟨a, ending, u, rfl, hending, hu, hsettle⟩
    rw [readAfter_append_of_ok hu]
    simp only [CommandLine.ends, List.mem_cons, List.not_mem_nil, or_false] at hending
    rcases hending with rfl | rfl
    · exact hsettle
    · exact hsettle

/-- An argument that is met where no value is awaited is no word. -/
theorem not_isPlain_of_take {versioned : Bool} {s t : Side} {argument : Text}
    (h : s.take versioned (.of argument) = .ok t) (hs : s.isAwaiting = false) :
    ¬ IsPlain argument := by
  intro hplain
  rw [Argument.of_eq_word_iff.mpr ⟨hplain, rfl⟩, take, takeWord] at h
  unfold isAwaiting at hs
  split at h
  · next hp =>
    rw [hp] at hs
    cases hs
  · cases h

end Side

namespace CommandLine

/-- The name of a mode, and that of the request for help, can stand as arguments of their own. -/
theorem isPlain_name (mode : Mode) : IsPlain mode.name := by
  intro h
  cases mode <;> cases h

theorem isPlain_helpName : IsPlain helpName := by
  intro h
  cases h

/-- An argument that can be no value names neither a mode nor the request for help. -/
theorem names_none_of_not_isPlain {argument : Text} (h : ¬ IsPlain argument) :
    Mode.ofName? argument = none ∧ argument ≠ helpName := by
  refine ⟨?_, ?_⟩
  · rw [Option.eq_none_iff_forall_not_mem]
    intro mode hmode
    rw [Mode.ofName?_eq_some_iff.mp hmode] at h
    exact h (isPlain_name mode)
  · rintro rfl
    exact h isPlain_helpName

/-- Arguments that are met before the mode have done their part. None of them that is met where no
value is awaited is taken for a name. -/
theorem readFrom_append_of_ok {s t : Side} {b : List Text} (h : s.takeAll true b = .ok t)
    (rest : List Text) : readFrom s (b ++ rest) = readFrom t rest := by
  induction b generalizing s with
  | nil =>
    cases h
    rfl
  | cons argument b ih =>
    obtain ⟨u, hu, hb⟩ := Side.takeAll_cons_eq_ok_iff.mp h
    have hread := ih hb
    rw [List.cons_append, readFrom]
    by_cases hawaiting : s.isAwaiting = true
    · simp [hawaiting, hu, hread]
    · rw [Bool.not_eq_true] at hawaiting
      obtain ⟨hmode, hhelp⟩ := names_none_of_not_isPlain (Side.not_isPlain_of_take hu hawaiting)
      simp [hawaiting, hmode, hhelp, hu, hread]

/-- The arguments before the mode are met one after the other. Where no value is awaited, the name
of a mode ends them. -/
theorem readFrom_eq_ok_iff {s : Side} {arguments : List Text} {c : CommandLine} :
    readFrom s arguments = .ok c ↔ ∃ b rest u, arguments = b ++ c.mode.name :: rest
      ∧ s.takeAll true b = .ok u ∧ u.settle = .ok c.before
      ∧ Side.start.readAfter rest = .ok c.after := by
  constructor
  · intro h
    induction arguments generalizing s with
    | nil => cases h
    | cons argument rest ih =>
      rw [readFrom] at h
      split at h
      · next mode hmode =>
        split at h
        · cases h
        · cases h
        · next after before hafter hbefore =>
          cases h
          have hname : argument = mode.name := by
            split at hmode
            · cases hmode
            · exact Mode.ofName?_eq_some_iff.mp hmode
          exact ⟨[], rest, s, by rw [hname]; rfl, rfl, hbefore, hafter⟩
      · split at h
        · cases h
        · split at h
          · cases h
          · next t ht =>
            obtain ⟨b, later, u, hrest, hu, hbefore, hafter⟩ := ih h
            refine ⟨argument :: b, later, u, ?_, ?_, hbefore, hafter⟩
            · rw [hrest]
              rfl
            · exact Side.takeAll_cons_eq_ok_iff.mpr ⟨t, ht, hu⟩
  · rintro ⟨b, rest, u, harguments, hu, hbefore, hafter⟩
    have hname : Mode.ofName? c.mode.name = some c.mode := Mode.ofName?_eq_some_iff.mpr rfl
    rw [harguments, readFrom_append_of_ok hu, readFrom]
    simp [Side.isAwaiting_of_settle hbefore, hname, hafter, hbefore]

/-- The command lines of the grammar whose rows can be taken: they name a mode, and write a row of
settings before it and another one after it. -/
structure Accepted (mode : Mode) (before after : List Setting) (arguments : List Text) : Prop where
  gives : Gives mode before after arguments
  before_admissible : Admissible before
  after_admissible : Admissible after

/-- What is accepted is read, and each side is what its row comes to. -/
theorem Accepted.parse_eq {mode : Mode} {before after : List Setting} {arguments : List Text}
    (h : Accepted mode before after arguments) :
    parse arguments = .ok ⟨mode, Settings.of before, Settings.of after⟩ := by
  rw [parse, readFrom_eq_ok_iff]
  cases h.gives with
  | @intro b a ending hb ha hending =>
    obtain ⟨u, hu, hsettle⟩ : ∃ u, Side.start.takeAll true b = .ok u
        ∧ u.settle = .ok (Settings.of before) :=
      Side.exists_takeAll_start_iff.mpr ⟨before, hb, h.before_admissible, rfl⟩
    obtain ⟨t, ht, hsettle'⟩ : ∃ t, Side.start.takeAll false a = .ok t
        ∧ t.settle = .ok (Settings.of after) :=
      Side.exists_takeAll_start_iff.mpr ⟨after, ha, h.after_admissible, rfl⟩
    refine ⟨b, a ++ ending, u, rfl, hu, hsettle, ?_⟩
    exact Side.readAfter_eq_ok_iff.mpr ⟨a, ending, t, rfl, hending, ht, hsettle'⟩

/-- **What is read is accepted**: there are no other command lines that can be read than those of
the grammar. -/
theorem parse_eq_ok_iff {arguments : List Text} {c : CommandLine} :
    parse arguments = .ok c ↔ ∃ before after, Accepted c.mode before after arguments
      ∧ Settings.of before = c.before ∧ Settings.of after = c.after := by
  constructor
  · intro h
    rw [parse, readFrom_eq_ok_iff] at h
    obtain ⟨b, rest, u, rfl, hu, hbefore, hafter⟩ := h
    obtain ⟨a, ending, t, rfl, hending, ht, hsettle⟩ := Side.readAfter_eq_ok_iff.mp hafter
    obtain ⟨before, hb, hadmissible, hof⟩ := Side.exists_takeAll_start_iff.mp ⟨u, hu, hbefore⟩
    obtain ⟨after, ha, hadmissible', hof'⟩ := Side.exists_takeAll_start_iff.mp ⟨t, ht, hsettle⟩
    exact ⟨before, after, ⟨.intro hb ha hending, hadmissible, hadmissible'⟩, hof, hof'⟩
  · rintro ⟨before, after, h, hof, hof'⟩
    rw [h.parse_eq, hof, hof']

end CommandLine

end SqlStates
