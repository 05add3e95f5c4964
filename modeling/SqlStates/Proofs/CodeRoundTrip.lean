/-
Reading and writing SQLSTATE codes are inverse to each other.

From the text side a code is read exactly from five letters and digits of ASCII, and
the first thing wrong with any other text is what is reported. From the number side
every number up to `ZZZZZ` is a code's. In both directions number and digits come out
as the same pair.
-/
import SqlStates.Proofs.CodeNumeral

set_option autoImplicit false

namespace SqlStates.SqlState

/-! ## A code is determined by its number, and by its digits -/

/-- Codes with one number are one code: five digits can spell a number in one way only. -/
theorem ext_number {s t : SqlState} (h : s.number = t.number) : s = t := by
  obtain ⟨ds, hds, hsd, hsn⟩ := s.spelled
  obtain ⟨es, hes, htd, htn⟩ := t.spelled
  -- five digits each, so the numeral tells them apart
  have heq : ds = es := by
    apply Digit.numeral_injective (hds.trans hes.symm)
    rw [← hsn, ← htn, h]
  apply SqlState.ext h
  rw [hsd, htd, heq]

/-- Codes with the same digits are one code. -/
theorem ext_digits {s t : SqlState} (h : s.digits = t.digits) : s = t := by
  obtain ⟨ds, -, hsd, hsn⟩ := s.spelled
  obtain ⟨es, -, htd, htn⟩ := t.spelled
  have heq : ds = es := by
    have hinj : Function.Injective Digit.byte := fun _ _ => Digit.byte_injective
    apply List.map_injective_iff.mpr hinj
    rw [← hsd, ← htd, h]
  apply ext_number
  rw [← UInt32.toNat_inj, hsn, htn, heq]

/-! ## What the reading loop does -/

/-- On characters that are digits the loop goes to the end. -/
theorem parseFrom_eq_ok {t : Text} {ds : List Digit} (h : t.map Digit.ofChar? = ds.map some)
    (code : Text) (number : UInt32) (digits : Bytes) :
    parseFrom code number digits t
      = .ok (ds.foldl step number, digits ++ ds.map Digit.byte) := by
  induction t generalizing ds number digits with
  | nil =>
    cases ds with
    | nil => simp [parseFrom]
    | cons d ds => simp at h
  | cons c t ih =>
    cases ds with
    | nil => simp at h
    | cons d ds =>
      rw [List.map_cons, List.map_cons, List.cons.injEq] at h
      simp only [parseFrom, h.1]
      rw [ih h.2, Digit.upperByte_of_ofChar? h.1, List.append_assoc, List.map_cons]
      rfl

/-- The first character that is no digit ends the loop. -/
theorem parseFrom_eq_error {before : Text} {c : Char} (after : Text)
    (hbefore : ∀ b ∈ before, b.isAlphanum) (hc : c.isAlphanum = false) (code : Text)
    (number : UInt32) (digits : Bytes) :
    parseFrom code number digits (before ++ c :: after) = .error (.digit code c) := by
  induction before generalizing number digits with
  | nil =>
    have hnone : Digit.ofChar? c = none := by
      rw [← Option.not_isSome_iff_eq_none, Digit.isSome_ofChar?, hc]
      decide
    simp only [List.nil_append, parseFrom, hnone]
  | cons b before ih =>
    rw [List.forall_mem_cons] at hbefore
    have hb : (Digit.ofChar? b).isSome := by
      rw [Digit.isSome_ofChar?]
      exact hbefore.1
    obtain ⟨d, hd⟩ := Option.isSome_iff_exists.mp hb
    simp only [List.cons_append, parseFrom, hd]
    exact ih hbefore.2 _ _

/-- As long as there are five digits at most, the number the loop holds is their numeral. The
step lemma does the work; the induction takes the digits from the right, as the loop has them. -/
theorem toNat_foldl_step {ds : List Digit} (h : ds.length ≤ 5) :
    (ds.foldl step 0).toNat = Digit.numeral ds := by
  induction ds using List.reverseRecOn with
  | nil => rfl
  | append_singleton ds d ih =>
    rw [List.length_append, List.length_singleton] at h
    rw [List.foldl_append, List.foldl_cons, List.foldl_nil]
    exact toNat_step d (by omega) (ih (by omega))

/-! ## Reading -/

theorem parse_of_length_ne {t : Text} (h : t.length ≠ 5) : parse t = .error (.length t) := by
  rw [parse, dif_neg h]

/-- Five digits are a code. -/
theorem parse_of_digits {t : Text} {ds : List Digit} (hlen : t.length = 5)
    (h : t.map Digit.ofChar? = ds.map some) :
    ∃ s, parse t = .ok s ∧ s.number = ds.foldl step 0 ∧ s.digits = ds.map Digit.byte := by
  have hread := parseFrom_eq_ok h t 0 []
  rw [List.nil_append] at hread
  rw [parse, dif_pos hlen]
  split
  · next e he => rw [hread] at he; cases he
  · next number digits hok =>
    rw [hread] at hok
    cases hok
    exact ⟨_, rfl, rfl, rfl⟩

/-- Of five characters the first that is no digit is reported. -/
theorem parse_of_find? {t : Text} {c : Char} (hlen : t.length = 5)
    (h : t.find? (fun c => !c.isAlphanum) = some c) : parse t = .error (.digit t c) := by
  obtain ⟨hc, before, after, hsplit, hbefore⟩ := List.find?_eq_some_iff_append.mp h
  -- the loop meets `c` behind characters that it can read
  have hread := parseFrom_eq_error after (by simpa using hbefore) (by simpa using hc) t 0 []
  rw [← hsplit] at hread
  rw [parse, dif_pos hlen]
  split
  · next e he => rw [hread] at he; cases he; rfl
  · next number digits hok => rw [hread] at hok; cases hok

/-- What reading can come to: a wrong length, five characters of which one is no digit, or a
code. -/
theorem parse_cases (t : Text) :
    (t.length ≠ 5 ∧ parse t = .error (.length t))
    ∨ (t.length = 5 ∧ ∃ c, t.find? (fun c => !c.isAlphanum) = some c
        ∧ parse t = .error (.digit t c))
    ∨ (t.length = 5 ∧ (∀ c ∈ t, c.isAlphanum) ∧ ∃ s, parse t = .ok s) := by
  by_cases hlen : t.length = 5
  · cases hfind : t.find? (fun c => !c.isAlphanum) with
    | some c => exact .inr (.inl ⟨hlen, c, rfl, parse_of_find? hlen hfind⟩)
    | none =>
      have hall : ∀ c ∈ t, c.isAlphanum := by simpa using hfind
      obtain ⟨ds, hds⟩ := Digit.exists_map_ofChar? hall
      obtain ⟨s, hs, -, -⟩ := parse_of_digits hlen hds
      exact .inr (.inr ⟨hlen, hall, s, hs⟩)
  · exact .inl ⟨hlen, parse_of_length_ne hlen⟩

/-- A text of another length than five, or with anything but letters and digits, is no code. -/
theorem exists_parse_error {t : Text} (h : t.length ≠ 5 ∨ ∃ c ∈ t, c.isAlphanum = false) :
    ∃ e, parse t = .error e := by
  rcases parse_cases t with ⟨-, herr⟩ | ⟨-, c, -, herr⟩ | ⟨hlen, hall, -⟩
  · exact ⟨_, herr⟩
  · exact ⟨_, herr⟩
  · rcases h with hne | ⟨c, hc, hno⟩
    · exact absurd hlen hne
    · rw [hall c hc] at hno
      cases hno

/-- A text is a code exactly if it is five letters and digits of ASCII. -/
theorem exists_parse_ok_iff (t : Text) :
    (∃ s, parse t = .ok s) ↔ t.length = 5 ∧ ∀ c ∈ t, c.isAlphanum := by
  constructor
  · rintro ⟨s, hs⟩
    rcases parse_cases t with ⟨-, herr⟩ | ⟨-, c, -, herr⟩ | ⟨hlen, hall, -⟩
    · rw [herr] at hs
      cases hs
    · rw [herr] at hs
      cases hs
    · exact ⟨hlen, hall⟩
  · rintro ⟨hlen, hall⟩
    obtain ⟨ds, hds⟩ := Digit.exists_map_ofChar? hall
    obtain ⟨s, hs, -, -⟩ := parse_of_digits hlen hds
    exact ⟨s, hs⟩

/-- A code read from a text has the digits that the text's characters stand for, and the number
the loop made of them. -/
theorem digits_of_parse_ok {t : Text} {s : SqlState} (h : parse t = .ok s) :
    ∃ ds : List Digit, ds.length = 5 ∧ t.map Digit.ofChar? = ds.map some
      ∧ s.number = ds.foldl step 0 ∧ s.digits = ds.map Digit.byte := by
  obtain ⟨hlen, hall⟩ := (exists_parse_ok_iff t).mp ⟨s, h⟩
  obtain ⟨ds, hds⟩ := Digit.exists_map_ofChar? hall
  obtain ⟨s', hs', hnumber, hdigits⟩ := parse_of_digits hlen hds
  have hdslen : ds.length = 5 := by
    rw [← hlen]
    simpa using (congrArg List.length hds).symm
  rw [h, Except.ok.injEq] at hs'
  rw [hs']
  exact ⟨ds, hdslen, hds, hnumber, hdigits⟩

/-- A text that is no code is reported with its length, or else with its first character that is
no digit. -/
theorem toError_of_parse_error {t : Text} {e : CodeError} (h : parse t = .error e) :
    t.length ≠ 5 ∧ e.toError = .codeLength t t.length
      ∨ t.length = 5 ∧ ∃ c, t.find? (fun c => !c.isAlphanum) = some c
          ∧ e.toError = .codeDigit t c := by
  rcases parse_cases t with ⟨hlen, herr⟩ | ⟨hlen, c, hfind, herr⟩ | ⟨-, -, s, hs⟩
  · rw [herr] at h
    cases h
    exact .inl ⟨hlen, rfl⟩
  · rw [herr] at h
    cases h
    exact .inr ⟨hlen, c, hfind, rfl⟩
  · rw [hs] at h
    cases h

/-- The characters of a code are digits again. -/
theorem text_eq_map_char {s : SqlState} {ds : List Digit} (h : s.digits = ds.map Digit.byte) :
    s.text = ds.map Digit.char := by
  rw [text_eq, h, List.map_map]
  rfl

/-- **A code is read back from its text.** -/
theorem parse_text (s : SqlState) : parse s.text = .ok s := by
  obtain ⟨ds, hlen, hdigits, -⟩ := s.spelled
  have hread : s.text.map Digit.ofChar? = ds.map some := by
    rw [text_eq_map_char hdigits, List.map_map]
    exact List.map_congr_left fun d _ => Digit.ofChar?_char d
  obtain ⟨t, ht, -, htd⟩ := parse_of_digits s.length_text hread
  rw [ht, ext_digits (htd.trans hdigits.symm)]

theorem text_injective {s t : SqlState} (h : s.text = t.text) : s = t := by
  have hs := parse_text s
  rw [h, parse_text t] at hs
  exact (Except.ok.inj hs).symm

theorem eq_iff_value_eq {s t : SqlState} : s = t ↔ s.value = t.value :=
  ⟨congrArg value, fun h => ext_number (UInt32.toNat_inj.mp h)⟩

theorem eq_iff_text_eq {s t : SqlState} : s = t ↔ s.text = t.text :=
  ⟨congrArg text, text_injective⟩

theorem value_eq_iff_text_eq {s t : SqlState} : s.value = t.value ↔ s.text = t.text := by
  rw [← eq_iff_value_eq, eq_iff_text_eq]

/-! ## Numbers -/

theorem number_le (s : SqlState) : s.number.toNat ≤ 36 ^ 5 - 1 :=
  Nat.le_sub_one_of_lt s.value_lt_count

/-- A number up to the largest is the number of a code. -/
theorem ofNumber?_of_le {v : UInt32} (h : v.toNat ≤ 36 ^ 5 - 1) :
    ∃ s, ofNumber? v = some s ∧ s.number = v := by
  have hle : ¬ v > maxNumber := UInt32.not_lt.mpr (UInt32.le_iff_toNat_le.mpr h)
  obtain ⟨ds, -, -, hspell⟩ := spellFrom_eq 5 v []
  rw [ofNumber?, dif_neg hle]
  split
  · next hnone => rw [hspell] at hnone; cases hnone
  · exact ⟨_, rfl, rfl⟩

theorem ofNumber?_of_lt {v : UInt32} (h : 36 ^ 5 - 1 < v.toNat) : ofNumber? v = none := by
  have hgt : v > maxNumber := UInt32.lt_iff_toNat_lt.mpr h
  rw [ofNumber?, dif_pos hgt]

/-- A number is that of a code exactly if it is at most the largest. -/
theorem exists_ofNumber?_iff (v : UInt32) :
    (∃ s, ofNumber? v = some s) ↔ v.toNat ≤ 36 ^ 5 - 1 := by
  constructor
  · rintro ⟨s, hs⟩
    by_contra hlt
    rw [ofNumber?_of_lt (Nat.lt_of_not_le hlt)] at hs
    cases hs
  · intro hle
    obtain ⟨s, hs, -⟩ := ofNumber?_of_le hle
    exact ⟨s, hs⟩

theorem number_of_ofNumber? {v : UInt32} {s : SqlState} (h : ofNumber? v = some s) :
    s.number = v := by
  obtain ⟨s', hs', hnumber⟩ := ofNumber?_of_le ((exists_ofNumber?_iff v).mp ⟨s, h⟩)
  rw [h, Option.some.injEq] at hs'
  rw [hs', hnumber]

/-- **A code is found again under its number.** -/
theorem ofNumber?_number (s : SqlState) : ofNumber? s.number = some s := by
  obtain ⟨t, ht, htn⟩ := ofNumber?_of_le s.number_le
  rw [ht, ext_number htn]

/-! ## The round trips -/

/-- A code read from a text is written with the text's characters, letters made capitals. -/
theorem text_of_digits {t : Text} {ds : List Digit} {s : SqlState}
    (h : t.map Digit.ofChar? = ds.map some) (hs : s.digits = ds.map Digit.byte) :
    s.text = t.map Char.toUpper := by
  rw [text_eq_map_char hs]
  -- the code has done its part: what is left is about the two rows of characters
  clear hs
  induction t generalizing ds with
  | nil =>
    cases ds with
    | nil => rfl
    | cons d ds => simp at h
  | cons c t ih =>
    cases ds with
    | nil => simp at h
    | cons d ds =>
      rw [List.map_cons, List.map_cons, List.cons.injEq] at h
      rw [List.map_cons, List.map_cons, ih h.2, Digit.char_of_ofChar? h.1]

/-- A code is written in capitals, however it was read. -/
theorem text_of_parse_ok {t : Text} {s : SqlState} (h : parse t = .ok s) :
    s.text = t.map Char.toUpper := by
  obtain ⟨ds, -, hds, -, hdigits⟩ := digits_of_parse_ok h
  exact text_of_digits hds hdigits

/-- Before every character of a text of five digits the loop holds the number of the characters
before it, and neither multiplying it nor adding the digit leaves the range of the word. -/
theorem parseFrom_no_overflow {t before after : Text} {c : Char} (hlen : t.length = 5)
    (hall : ∀ b ∈ t, b.isAlphanum) (hsplit : t = before ++ c :: after) :
    ∃ number digits, parseFrom t 0 [] before = .ok (number, digits)
      ∧ number.toNat = Digit.textValue before
      ∧ number.toNat * 36 + Digit.charValue c < UInt32.size := by
  have hbefore : ∀ b ∈ before, b.isAlphanum := by
    intro b hb
    exact hall b (by rw [hsplit]; exact List.mem_append_left _ hb)
  obtain ⟨ds, hds⟩ := Digit.exists_map_ofChar? hbefore
  have hdslen : ds.length = before.length := by
    simpa using (congrArg List.length hds).symm
  -- `c` is one of the five, so there are four before it at most
  have hle : ds.length ≤ 4 := by
    rw [hsplit, List.length_append, List.length_cons] at hlen
    omega
  have hnumber : (ds.foldl step 0).toNat = Digit.numeral ds := toNat_foldl_step (by omega)
  refine ⟨ds.foldl step 0, ds.map Digit.byte, parseFrom_eq_ok hds t 0 [], ?_, ?_⟩
  · rw [hnumber, Digit.textValue_eq hds]
  · have hc : (Digit.ofChar? c).isSome := by
      rw [Digit.isSome_ofChar?]
      exact hall c (by rw [hsplit]; simp)
    obtain ⟨d, hd⟩ := Option.isSome_iff_exists.mp hc
    have hlt : Digit.numeral ds < Digit.weight ds.length := Digit.numeral_lt ds
    have hweight : Digit.weight ds.length ≤ 1679616 := Digit.weight_le hle
    have hdlt : d.val < 36 := d.isLt
    rw [hnumber, Digit.charValue_of_ofChar? hd]
    simp only [UInt32.size]
    omega

/-- **The codec round trip.** A text is a code exactly if it is five letters and digits of ASCII;
the code is then written with the capitals of the text, its number is the text's in base 36, no
step of the loop overflows, and it is found again both from its text and under its number. A word
is a code's number exactly if it is at most that of `ZZZZZ`, and the code under it is read back
from its text. A text that is no code is reported with its length if that is not five, and else
with its first character that is neither letter nor digit. -/
theorem codec_round_trip (t : Text) (v : UInt32) :
    ((∃ s, parse t = .ok s) ↔ t.length = 5 ∧ ∀ c ∈ t, c.isAlphanum)
    ∧ (∀ s, parse t = .ok s →
        s.text = t.map Char.toUpper ∧ s.value = Digit.textValue t
        ∧ (∀ before c after, t = before ++ c :: after →
            ∃ number digits, parseFrom t 0 [] before = .ok (number, digits)
              ∧ number.toNat = Digit.textValue before
              ∧ number.toNat * 36 + Digit.charValue c < UInt32.size)
        ∧ parse s.text = .ok s ∧ ofNumber? s.number = some s)
    ∧ ((∃ s, ofNumber? v = some s) ↔ v.toNat ≤ 36 ^ 5 - 1)
    ∧ (∀ s, ofNumber? v = some s → s.number = v ∧ parse s.text = .ok s)
    ∧ (∀ e, parse t = .error e →
        t.length ≠ 5 ∧ e.toError = .codeLength t t.length
        ∨ t.length = 5 ∧ ∃ c, t.find? (fun c => !c.isAlphanum) = some c
            ∧ e.toError = .codeDigit t c) := by
  refine ⟨exists_parse_ok_iff t, ?_, exists_ofNumber?_iff v, ?_, ?_⟩
  · intro s hs
    obtain ⟨hlen, hall⟩ := (exists_parse_ok_iff t).mp ⟨s, hs⟩
    obtain ⟨ds, hdslen, hds, hnumber, hdigits⟩ := digits_of_parse_ok hs
    refine ⟨text_of_digits hds hdigits, ?_, ?_, parse_text s, ofNumber?_number s⟩
    · rw [value, hnumber, toNat_foldl_step (by omega), Digit.textValue_eq hds]
    · intro before c after hsplit
      exact parseFrom_no_overflow hlen hall hsplit
  · intro s hs
    exact ⟨number_of_ofNumber? hs, parse_text s⟩
  · intro e he
    exact toError_of_parse_error he

end SqlStates.SqlState
