/-
Base-36 digits as characters, and rows of them as numerals.

The letters and digits of ASCII are the characters that stand for digits, and each is
shown as its capital. A numeral is compared with `Nat.ofDigits`, which knows nothing of
words or loops: `textValue` is the number of a text by its characters alone, and it is
what the loops that read and write codes are measured against.
-/
import Mathlib.Data.Nat.Digits.Lemmas
import SqlStates.SqlState

set_option autoImplicit false

namespace SqlStates

/-! ## Digits as characters -/

namespace Digit

/-- The value of a base-36 digit by its character alone. -/
def charValue (c : Char) : Nat := if c.isDigit then c.toNat - 48 else c.toUpper.toNat - 55

/-- The characters that stand for digits are the letters and digits of ASCII. -/
theorem isSome_ofChar? (c : Char) : (ofChar? c).isSome = c.isAlphanum := by
  by_cases hc : c.toNat < 128
  · have hall : ∀ n : Fin 128, (ofChar? (Char.ofNat n.val)).isSome = (Char.ofNat n.val).isAlphanum := by
      decide +kernel
    have h := hall ⟨c.toNat, hc⟩
    rwa [Char.ofNat_toNat] at h
  · have hnone : ofChar? c = none := by
      cases h : ofChar? c with
      | none => rfl
      | some d => exact absurd (lt_of_ofChar? h) hc
    rw [hnone, Option.isSome_none, Bool.false_eq, Bool.eq_false_iff]
    intro h
    -- each of the three ranges of the test ends below 128
    unfold Char.isAlphanum Char.isAlpha Char.isUpper Char.isLower Char.isDigit at h
    simp only [Bool.or_eq_true, Bool.and_eq_true, decide_eq_true_eq] at h
    rcases h with (h | h) | h
    all_goals exact hc (Nat.lt_of_le_of_lt (UInt32.le_iff_toNat_le.mp h.2) (by decide))

theorem charValue_of_ofChar? {c : Char} {d : Digit} (h : ofChar? c = some d) :
    charValue c = d.val := by
  refine of_ofChar? (P := fun c d => charValue c = d.val) ?_ h
  decide +kernel

theorem char_of_ofChar? {c : Char} {d : Digit} (h : ofChar? c = some d) : d.char = c.toUpper := by
  refine of_ofChar? (P := fun c d => d.char = c.toUpper) ?_ h
  decide +kernel

/-- A text of letters and digits of ASCII is read as a row of digits. -/
theorem exists_map_ofChar? {t : Text} (h : ∀ c ∈ t, c.isAlphanum) :
    ∃ ds : List Digit, t.map ofChar? = ds.map some := by
  induction t with
  | nil => exact ⟨[], rfl⟩
  | cons c t ih =>
    rw [List.forall_mem_cons] at h
    obtain ⟨ds, hds⟩ := ih h.2
    have hc : (ofChar? c).isSome := by
      rw [isSome_ofChar?]
      exact h.1
    obtain ⟨d, hd⟩ := Option.isSome_iff_exists.mp hc
    exact ⟨d :: ds, by rw [List.map_cons, hd, hds, List.map_cons]⟩

/-! ## Numerals and `Nat.ofDigits` -/

/-- A numeral is the number of its digits in base 36. -/
theorem numeral_eq_ofDigits (ds : List Digit) :
    numeral ds = Nat.ofDigits 36 (ds.map Fin.val).reverse := by
  induction ds using List.reverseRecOn with
  | nil => rfl
  | append_singleton ds d ih =>
    rw [numeral_concat, ih, List.map_append, List.map_singleton, List.reverse_append,
      List.reverse_singleton, List.singleton_append, Nat.ofDigits_cons]
    exact (Nat.add_comm ..).trans (congrArg _ (Nat.mul_comm ..))

/-- Rows of equally many digits with one numeral are one row. -/
theorem numeral_injective {ds es : List Digit} (hlen : ds.length = es.length)
    (h : numeral ds = numeral es) : ds = es := by
  rw [numeral_eq_ofDigits, numeral_eq_ofDigits] at h
  have hlt : ∀ fs : List Digit, ∀ n ∈ (fs.map Fin.val).reverse, n < 36 := by
    intro fs n hn
    rw [List.mem_reverse, List.mem_map] at hn
    obtain ⟨d, -, rfl⟩ := hn
    exact d.isLt
  -- `Nat.ofDigits` has the last digit first, hence the reversals
  have hrev := Nat.ofDigits_inj_of_len_eq (by decide) (by simp [hlen]) (hlt ds) (hlt es) h
  apply List.map_injective_iff.mpr Fin.val_injective
  exact List.reverse_injective hrev

/-- The number of a row of digits in base 36, by their characters alone. -/
def textValue (t : Text) : Nat := Nat.ofDigits 36 (t.map charValue).reverse

theorem textValue_eq {t : Text} {ds : List Digit} (h : t.map ofChar? = ds.map some) :
    textValue t = numeral ds := by
  rw [textValue, numeral_eq_ofDigits]
  congr 2
  induction t generalizing ds with
  | nil =>
    cases ds with
    | nil => rfl
    | cons d ds => simp at h
  | cons c t ih =>
    cases ds with
    | nil => simp at h
    | cons d ds =>
      rw [List.map_cons, List.map_cons, List.cons.injEq] at h
      rw [List.map_cons, List.map_cons, charValue_of_ofChar? h.1, ih h.2]

end Digit

end SqlStates
