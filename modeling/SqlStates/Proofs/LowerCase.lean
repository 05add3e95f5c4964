/-
Lower case: what it makes of a text.

No blank comes of lower-casing characters that are not blank, and no capital comes of
lower-casing anything. Both are facts about the table of capitals, each run of which is
compared with the blanks and with every other run as a whole, and not character by
character. A character that is no capital stays as it is wherever it stands; only a
capital sigma looks at what stands around it, and there is none left. So lower-casing a
second time changes nothing.
-/
import SqlStates.Text.Blank
import SqlStates.Text.LowerCase

set_option autoImplicit false

namespace SqlStates.Text

/-- A number that is no character's makes the character NUL. -/
theorem toNat_ofNat_eq_or (n : Nat) : (Char.ofNat n).toNat = n ∨ (Char.ofNat n).toNat = 0 := by
  by_cases hn : n.isValidChar
  · exact .inl (by rw [Char.ofNat, dif_pos hn]; rfl)
  · exact .inr (by rw [Char.ofNat, dif_neg hn]; rfl)

/-- The small letter of a capital is that of a run which the capital is in; any other character
stays. -/
theorem lowerLetter_cases (c : Char) :
    (∃ run ∈ capitalRuns, run.has c.toNat = true ∧ lowerLetter c = Char.ofNat (run.lower c.toNat))
      ∨ (∀ run ∈ capitalRuns, run.has c.toNat = false) ∧ lowerLetter c = c := by
  unfold lowerLetter
  cases h : capitalRuns.find? fun run => run.has c.toNat with
  | some run =>
    have hhas : run.has c.toNat = true := by simpa using List.find?_some h
    exact .inl ⟨run, List.mem_of_find?_eq_some h, hhas, rfl⟩
  | none =>
    refine .inr ⟨?_, rfl⟩
    intro run hrun
    simpa using List.find?_eq_none.mp h run hrun

/-- What holds of the lower case of every character of a text, wherever it stands, holds of all
characters of the text in lower case. -/
theorem forall_mem_lowerCase {P : Char → Prop} {t : Text}
    (h : ∀ c ∈ t, ∀ before after, ∀ d ∈ lowerChar before c after, P d) :
    ∀ d ∈ lowerCase t, P d := by
  have hafter : ∀ before, ∀ d ∈ lowerAfter before t, P d := by
    induction t with
    | nil => simp [lowerAfter]
    | cons c t ih =>
      rw [List.forall_mem_cons] at h
      intro before
      rw [lowerAfter]
      exact List.forall_mem_append.mpr ⟨h.1 before t, ih h.2 (c :: before)⟩
  exact hafter []

/-! ## Blanks -/

/-- No run of capitals is mapped onto a blank: the small letters of each lie on one side of every
range of blanks. -/
theorem capitalRuns_avoid_blanks : ∀ run ∈ capitalRuns, ∀ range ∈ blanks,
    run.last + run.shift < range.1 ∨ range.2 < run.first + run.shift := by
  decide +kernel

theorem not_blank_lowerLetter {c : Char} (h : isBlank c = false) :
    isBlank (lowerLetter c) = false := by
  rcases lowerLetter_cases c with ⟨run, hrun, hhas, hlower⟩ | ⟨-, hlower⟩
  · simp only [CapitalRun.has, Bool.and_eq_true, decide_eq_true_eq] at hhas
    rw [hlower, Bool.eq_false_iff, isBlank, Ne, CharSet.has_iff]
    rintro ⟨range, hrange, hlow, hhigh⟩
    have hpositive : ∀ r ∈ blanks, 0 < r.1 := by decide
    have hpos := hpositive range hrange
    have havoid := capitalRuns_avoid_blanks run hrun range hrange
    rcases toNat_ofNat_eq_or (run.lower c.toNat) with hcode | hcode
    · rw [hcode, CapitalRun.lower] at hlow hhigh
      omega
    · -- what is no character's number has become NUL, which is before all blanks
      omega
  · rw [hlower]
    exact h

theorem not_blank_of_mem_lowerChar {before after : Text} {c : Char} (h : isBlank c = false) :
    ∀ d ∈ lowerChar before c after, isBlank d = false := by
  unfold lowerChar
  split
  · rw [List.forall_mem_cons, List.forall_mem_singleton]
    decide
  · split
    · split
      · rw [List.forall_mem_singleton]
        decide
      · rw [List.forall_mem_singleton]
        decide
    · rw [List.forall_mem_singleton]
      exact not_blank_lowerLetter h

theorem not_blank_of_mem_lowerCase {t : Text} (h : ∀ c ∈ t, isBlank c = false) :
    ∀ c ∈ lowerCase t, isBlank c = false :=
  forall_mem_lowerCase fun c hc _ _ => not_blank_of_mem_lowerChar (h c hc)

/-! ## Capitals -/

/-- The capitals: those of the runs, and `İ`, as a run of one whose small letter is not used. -/
def capitals : List CapitalRun := ⟨0x130, 0x130, 1, 0⟩ :: capitalRuns

/-- Whether a character has another one as its lower case. -/
def isCapital (c : Char) : Bool := capitals.any fun run => run.has c.toNat

/-- Whether the small letters of a run are seen to be no capitals of another. Either they all lie on
one side of it, or they lie between its capitals, where these are every second character. -/
def CapitalRun.misses (run other : CapitalRun) : Bool :=
  Nat.blt (run.lower run.last) other.first || Nat.blt other.last (run.lower run.first)
    || other.step == 2 && (run.step == 2 || run.first == run.last)
      && (run.lower run.first - other.first) % 2 == 1

theorem CapitalRun.has_lower_of_misses {run other : CapitalRun} {code : Nat}
    (h : run.misses other = true) (hcode : run.has code = true) :
    other.has (run.lower code) = false := by
  simp only [misses, Bool.or_eq_true, Bool.and_eq_true, Nat.blt_eq, beq_iff_eq] at h
  simp only [has, Bool.and_eq_true, decide_eq_true_eq, beq_iff_eq] at hcode
  obtain ⟨⟨hfirst, hlast⟩, hstep⟩ := hcode
  -- lower-casing keeps the order within a run
  have hlow : run.lower run.first ≤ run.lower code := by simp only [lower]; omega
  have hhigh : run.lower code ≤ run.lower run.last := by simp only [lower]; omega
  rw [Bool.eq_false_iff]
  intro hother
  simp only [has, Bool.and_eq_true, decide_eq_true_eq, beq_iff_eq] at hother
  obtain ⟨⟨hbelow, habove⟩, hplace⟩ := hother
  rcases h with (hbefore | hafter) | ⟨⟨hsecond, hsparse⟩, hodd⟩
  · omega
  · omega
  · -- the first small letter is at an odd distance, and so are the others
    have heven : (code - run.first) % 2 = 0 := by
      rcases hsparse with htwo | hone
      · rwa [htwo] at hstep
      · omega
    rw [hsecond] at hplace
    simp only [lower] at hodd hplace hbelow
    omega

/-- No small letter of a run is a capital: any two runs are compared. -/
theorem capitalRuns_miss_capitals :
    (capitalRuns.all fun run => capitals.all fun other => run.misses other) = true := by
  decide +kernel

theorem not_isCapital_lowerLetter {c : Char} (h : c ≠ '\u0130') :
    isCapital (lowerLetter c) = false := by
  rw [isCapital, List.any_eq_false]
  intro other hother
  rw [Bool.not_eq_true]
  rcases lowerLetter_cases c with ⟨run, hrun, hhas, hlower⟩ | ⟨hnone, hlower⟩
  · have hmisses : run.misses other = true :=
      List.all_eq_true.mp (List.all_eq_true.mp capitalRuns_miss_capitals run hrun) other hother
    rw [hlower]
    rcases toNat_ofNat_eq_or (run.lower c.toNat) with hcode | hcode
    · rw [hcode]
      exact CapitalRun.has_lower_of_misses hmisses hhas
    · -- NUL is no capital either
      have hnul : ∀ r ∈ capitals, r.has 0 = false := by decide +kernel
      rw [hcode]
      exact hnul other hother
  · rw [hlower]
    rcases List.mem_cons.mp hother with rfl | hother
    · -- the run of one has no other character in it
      rw [Bool.eq_false_iff]
      intro hhas
      simp only [CapitalRun.has, Bool.and_eq_true, decide_eq_true_eq] at hhas
      exact h (Char.toNat_inj.mp (show c.toNat = 0x130 by omega))
    · exact hnone other hother

theorem not_isCapital_of_mem_lowerChar (before after : Text) (c : Char) :
    ∀ d ∈ lowerChar before c after, isCapital d = false := by
  unfold lowerChar
  split
  · rw [List.forall_mem_cons, List.forall_mem_singleton]
    decide
  · next hdotted =>
    split
    · split
      · rw [List.forall_mem_singleton]
        decide
      · rw [List.forall_mem_singleton]
        decide
    · rw [List.forall_mem_singleton]
      exact not_isCapital_lowerLetter hdotted

/-- A character that is no capital stays as it is wherever it stands. -/
theorem lowerChar_of_not_isCapital {c : Char} (h : isCapital c = false) (before after : Text) :
    lowerChar before c after = [c] := by
  have hdotted : c ≠ '\u0130' := by
    rintro rfl
    revert h
    decide
  have hsigma : c ≠ '\u03A3' := by
    rintro rfl
    revert h
    decide
  rw [lowerChar, if_neg hdotted, if_neg hsigma]
  rcases lowerLetter_cases c with ⟨run, hrun, hhas, -⟩ | ⟨-, hlower⟩
  · rw [isCapital, List.any_eq_false] at h
    exact absurd hhas (h run (List.mem_cons_of_mem _ hrun))
  · rw [hlower]

/-- A text without capitals is in lower case. -/
theorem lowerCase_of_not_isCapital {t : Text} (h : ∀ c ∈ t, isCapital c = false) :
    lowerCase t = t := by
  have hafter : ∀ before, lowerAfter before t = t := by
    induction t with
    | nil => exact fun _ => rfl
    | cons c t ih =>
      rw [List.forall_mem_cons] at h
      intro before
      rw [lowerAfter, lowerChar_of_not_isCapital h.1, ih h.2, List.singleton_append]
  exact hafter []

/-- **Lower-casing twice is lower-casing once.** -/
theorem lowerCase_lowerCase (t : Text) : lowerCase (lowerCase t) = lowerCase t :=
  lowerCase_of_not_isCapital
    (forall_mem_lowerCase fun c _ before after => not_isCapital_of_mem_lowerChar before after c)

end SqlStates.Text
