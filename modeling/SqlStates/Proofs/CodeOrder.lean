/-
The order of SQLSTATE codes is that of their numbers, and that of their texts.

Codes are compared by number and then by digits, and the second comparison never has a
say: the digits spell the number. Rows of equally many digits compare as their numerals
do, because the first digit in which they differ outweighs all that follow, and the bytes
that digits are kept as ascend with the digits, capitals standing after the ten figures.
So sorting codes sorts the numbers and the texts at once, and no other arrangement of the
same codes ascends in either way.
-/
import SqlStates.Proofs.CodeRoundTrip

set_option autoImplicit false

namespace SqlStates

/-! ## Rows of digits -/

namespace Digit

theorem byte_lt_byte_iff (d e : Digit) : d.byte < e.byte ↔ d < e := by
  revert d e
  decide +kernel

theorem utf8EncodeChar_char (d : Digit) : String.utf8EncodeChar d.char = [d.byte] := by
  revert d
  decide

/-- A greater digit counts for one full row of the places after it more, at least. -/
theorem val_mul_add_le {d e : Digit} (h : d < e) (n : Nat) : d.val * n + n ≤ e.val * n := by
  rw [← Nat.succ_mul]
  exact Nat.mul_le_mul_right n h

/-- **Numerals compare as their digits do.** The induction is on the places: the first digits decide
unless they are equal, since what stands in the places after them is less than a full row. -/
theorem numeral_lt_iff {ds es : List Digit} (hlen : ds.length = es.length) :
    numeral ds < numeral es ↔ ds.map byte < es.map byte := by
  induction ds generalizing es with
  | nil =>
    rw [List.eq_nil_of_length_eq_zero hlen.symm]
    simp
  | cons d ds ih =>
    cases es with
    | nil => cases hlen
    | cons e es =>
      have hrest : ds.length = es.length := Nat.succ.inj hlen
      have hds := numeral_lt ds
      have hes := numeral_lt es
      rw [numeral_cons, numeral_cons, List.map_cons, List.map_cons, List.cons_lt_cons_iff,
        ← ih hrest, byte_lt_byte_iff]
      rw [hrest] at hds ⊢
      -- a first digit ahead is ahead by a row, and either rest is less than one
      rcases lt_trichotomy d e with hlt | rfl | hgt
      · have hrow := val_mul_add_le hlt (weight es.length)
        exact iff_of_true (by omega) (.inl hlt)
      · simp
      · have hrow := val_mul_add_le hgt (weight es.length)
        refine iff_of_false (by omega) ?_
        rintro (hlt | ⟨heq, -⟩)
        · exact absurd hlt (lt_asymm hgt)
        · exact absurd (byte_injective heq) hgt.ne'

end Digit

namespace SqlState

/-! ## Codes -/

/-- The bytes of a code as it is written are its digits. -/
theorem encode_text (s : SqlState) : Utf8.encode s.text = s.digits := by
  obtain ⟨ds, -, hdigits, -⟩ := s.spelled
  rw [text_eq_map_char hdigits, hdigits, Utf8.encode, List.flatMap_map]
  simp only [Digit.utf8EncodeChar_char]
  exact List.flatMap_pure_eq_map _ ds

theorem value_lt_iff_digits_lt {s t : SqlState} : s.value < t.value ↔ s.digits < t.digits := by
  obtain ⟨ds, hds, hsd, hsn⟩ := s.spelled
  obtain ⟨es, hes, htd, htn⟩ := t.spelled
  rw [value, value, hsn, htn, hsd, htd]
  exact Digit.numeral_lt_iff (hds.trans hes.symm)

/-- The digits never decide: codes with one number have the same. -/
theorem lt_iff_value_lt {s t : SqlState} : s < t ↔ s.value < t.value := by
  constructor
  · rintro (hnumber | ⟨-, hdigits⟩)
    · exact UInt32.lt_iff_toNat_lt.mp hnumber
    · exact value_lt_iff_digits_lt.mpr hdigits
  · intro h
    exact .inl (UInt32.lt_iff_toNat_lt.mpr h)

theorem lt_iff_encode_lt {s t : SqlState} :
    s < t ↔ Utf8.encode s.text < Utf8.encode t.text := by
  rw [lt_iff_value_lt, value_lt_iff_digits_lt, encode_text, encode_text]

theorem le_iff_value_le {s t : SqlState} : s ≤ t ↔ s.value ≤ t.value := by
  rw [← Nat.not_lt, ← lt_iff_value_lt]
  rfl

theorem le_iff_encode_le {s t : SqlState} :
    s ≤ t ↔ Utf8.encode s.text ≤ Utf8.encode t.text := by
  rw [← List.not_lt, ← lt_iff_encode_lt]
  rfl

theorem le_antisymm {s t : SqlState} (hst : s ≤ t) (hts : t ≤ s) : s = t := by
  rw [le_iff_value_le] at hst hts
  exact eq_iff_value_eq.mpr (Nat.le_antisymm hst hts)

/-! ## Sorting -/

/-- Whether the numbers of codes ascend. -/
def AscendsByNumber (states : List SqlState) : Prop :=
  states.Pairwise fun s t => s.value ≤ t.value

/-- Whether the texts of codes ascend, byte by byte. -/
def AscendsByText (states : List SqlState) : Prop :=
  states.Pairwise fun s t => Utf8.encode s.text ≤ Utf8.encode t.text

theorem ascendsByNumber_iff {states : List SqlState} :
    AscendsByNumber states ↔ states.Pairwise (· ≤ ·) :=
  List.Pairwise.iff fun _ _ => le_iff_value_le.symm

theorem ascendsByText_iff {states : List SqlState} :
    AscendsByText states ↔ states.Pairwise (· ≤ ·) :=
  List.Pairwise.iff fun _ _ => le_iff_encode_le.symm

theorem pairwise_sort (states : List SqlState) : (sort states).Pairwise (· ≤ ·) := by
  have hsorted : (sort states).Pairwise fun s t => decide (s ≤ t) = true := by
    apply List.pairwise_mergeSort
    · intro r s t hrs hst
      rw [decide_eq_true_eq, le_iff_value_le] at hrs hst ⊢
      exact Nat.le_trans hrs hst
    · intro s t
      rw [Bool.or_eq_true, decide_eq_true_eq, decide_eq_true_eq, le_iff_value_le, le_iff_value_le]
      exact Nat.le_total ..
  exact hsorted.imp of_decide_eq_true

/-- **No other arrangement ascends.** Codes that are neither before nor after each other are
equal, so nothing is left open. -/
theorem eq_sort_of_perm {states other : List SqlState} (hperm : other.Perm states)
    (hother : other.Pairwise (· ≤ ·)) : other = sort states :=
  List.Perm.eq_of_pairwise (fun _ _ _ _ => le_antisymm) hother (pairwise_sort states)
    (hperm.trans (List.mergeSort_perm states _).symm)

/-! ## Reading several codes -/

/-- Whether a text is five letters and digits of ASCII, in either case. -/
def IsCode (t : Text) : Prop := t.length = 5 ∧ ∀ c ∈ t, c.isAlphanum

instance (t : Text) : Decidable (IsCode t) :=
  decidable_of_iff (t.length = 5 ∧ t.all Char.isAlphanum = true) (by rw [List.all_eq_true, IsCode])

theorem exists_parse_of_isCode {t : Text} (h : IsCode t) : ∃ s, parse t = .ok s :=
  (exists_parse_ok_iff t).mpr h

/-- Texts that are codes are all read, each as it is read alone. -/
theorem exists_parseAll {codes : List Text} (h : ∀ code ∈ codes, IsCode code) :
    ∃ states, parseAll codes = .ok states ∧ codes.map parse = states.map .ok := by
  induction codes with
  | nil => exact ⟨[], rfl, rfl⟩
  | cons code codes ih =>
    rw [List.forall_mem_cons] at h
    obtain ⟨s, hs⟩ := exists_parse_of_isCode h.1
    obtain ⟨states, hall, hmap⟩ := ih h.2
    refine ⟨s :: states, ?_, ?_⟩
    · rw [parseAll] at hall ⊢
      rw [List.mapM_cons, hs, hall]
      rfl
    · rw [List.map_cons, List.map_cons, hs, hmap]

/-- Codes are read as equal exactly if they have the same capitals. -/
theorem eq_iff_toUpper_eq {t u : Text} {s r : SqlState} (hs : parse t = .ok s)
    (hr : parse u = .ok r) : s = r ↔ t.map Char.toUpper = u.map Char.toUpper := by
  rw [eq_iff_text_eq, text_of_parse_ok hs, text_of_parse_ok hr]

/-- **Codes, numbers and texts have one order.** Two codes are equal exactly if their numbers are,
and if their texts are; one is before the other exactly if its number is smaller, and if the bytes
of its text come first. So texts that are codes, in either case, can all be read, and sorting what
was read keeps every one of them and ascends by number and by text, which no other arrangement of
them does in either way. Two such texts are read as one code exactly if they differ in case at
most. -/
theorem order_of_number_and_text (s t : SqlState) (codes : List Text) (one other : Text) :
    ((s = t ↔ s.value = t.value) ∧ (s = t ↔ s.text = t.text)
        ∧ (s < t ↔ s.value < t.value)
        ∧ (s < t ↔ Utf8.encode s.text < Utf8.encode t.text))
      ∧ ((∀ code ∈ codes, IsCode code) →
          ∃ states, parseAll codes = .ok states ∧ codes.map parse = states.map .ok
            ∧ (sort states).Perm states ∧ AscendsByNumber (sort states)
            ∧ AscendsByText (sort states)
            ∧ ∀ arranged : List SqlState, arranged.Perm states →
                AscendsByNumber arranged ∨ AscendsByText arranged → arranged = sort states)
      ∧ (IsCode one → IsCode other →
          ∃ p q, parse one = .ok p ∧ parse other = .ok q
            ∧ (p = q ↔ one.map Char.toUpper = other.map Char.toUpper)) := by
  refine ⟨⟨eq_iff_value_eq, eq_iff_text_eq, lt_iff_value_lt, lt_iff_encode_lt⟩, ?_, ?_⟩
  · intro hcodes
    obtain ⟨states, hall, hmap⟩ := exists_parseAll hcodes
    refine ⟨states, hall, hmap, List.mergeSort_perm states _,
      ascendsByNumber_iff.mpr (pairwise_sort states),
      ascendsByText_iff.mpr (pairwise_sort states), ?_⟩
    rintro arranged hperm (hnumber | htext)
    · exact eq_sort_of_perm hperm (ascendsByNumber_iff.mp hnumber)
    · exact eq_sort_of_perm hperm (ascendsByText_iff.mp htext)
  · intro hone hother
    obtain ⟨p, hp⟩ := exists_parse_of_isCode hone
    obtain ⟨q, hq⟩ := exists_parse_of_isCode hother
    exact ⟨p, q, hp, hq, eq_iff_toUpper_eq hp hq⟩

/-- One code in two spellings, and a smaller one between them. -/
def mixedCodes : List Text := ["22p02".toList, "0A000".toList, "22P02".toList]

/-- All three stay, in order, and the two spellings are one code. -/
theorem order_of_number_and_text_mixedCodes :
    (∀ code ∈ mixedCodes, IsCode code)
      ∧ (∃ states, parseAll mixedCodes = .ok states ∧ (sort states).length = 3
          ∧ AscendsByText (sort states))
      ∧ ∃ s, parse "22p02".toList = .ok s ∧ parse "22P02".toList = .ok s := by
  have hcodes : ∀ code ∈ mixedCodes, IsCode code := by decide
  have hsmall : IsCode "22p02".toList := hcodes _ (by decide)
  have hlarge : IsCode "22P02".toList := hcodes _ (by decide)
  obtain ⟨s, hs⟩ := exists_parse_of_isCode hsmall
  obtain ⟨-, hsorted, hread⟩ :=
    order_of_number_and_text s s mixedCodes "22p02".toList "22P02".toList
  obtain ⟨states, hall, hmap, hperm, -, htext, -⟩ := hsorted hcodes
  obtain ⟨p, q, hp, hq, hiff⟩ := hread hsmall hlarge
  -- as many are read as are written, so the two spellings both stay
  have hlen : states.length = 3 := by
    simpa [mixedCodes] using (congrArg List.length hmap).symm
  refine ⟨hcodes, ⟨states, hall, by rw [hperm.length_eq, hlen], htext⟩, p, hp, ?_⟩
  rw [hiff.mpr (by decide), hq]

end SqlState

end SqlStates
