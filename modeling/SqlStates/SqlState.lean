/-
SQLSTATE codes.

A code is five base-36 digits, the two of its class and the three of its subclass.
It is written with the digits `0` to `9` and capital letters, it is read in either
case, and it has a number, the value of the five digits together. Number and digits
are both kept, each reader computes the two of them, and a code holds the proof that
they agree. Codes are ordered by number, then by digits.
-/
import SqlStates.Digit
import SqlStates.Error
import SqlStates.Text.Utf8

set_option autoImplicit false

namespace SqlStates

/-- Five digits, and their number. -/
def Spells (number : UInt32) (digits : Bytes) : Prop :=
  ∃ ds : List Digit, ds.length = 5 ∧ digits = ds.map Digit.byte
    ∧ number.toNat = Digit.numeral ds

/-- An SQLSTATE code. -/
@[ext] structure SqlState where
  number : UInt32
  /-- The bytes of its five characters. -/
  digits : Bytes
  spelled : Spells number digits
  deriving DecidableEq

/-- Why a text is not a code. -/
inductive CodeError where
  /-- It does not have five characters. -/
  | length (code : Text)
  /-- It has five, and `found` is the first that is not a digit. -/
  | digit (code : Text) (found : Char)
  deriving DecidableEq

namespace CodeError

/-- The error of a text that is not a code. -/
def toError : CodeError → Error
  | length code => .codeLength code code.length
  | digit code found => .codeDigit code found

/-- The report of a text that is not a code. -/
def message (e : CodeError) : Text := e.toError.message

end CodeError

namespace SqlState

/-! ## Reading a code -/

/-- The number with one digit more. -/
def step (number : UInt32) (d : Digit) : UInt32 := number * 36 + UInt32.ofNat d.val

/-- Reads the characters of a code on from the number and the digits read so far. -/
def parseFrom (code : Text) (number : UInt32) (digits : Bytes) :
    Text → Except CodeError (UInt32 × Bytes)
  | [] => .ok (number, digits)
  | c :: rest =>
    match Digit.ofChar? c with
    | none => .error (.digit code c)
    | some d => parseFrom code (step number d) (digits ++ [Digit.upperByte c]) rest

/-- One digit more keeps the number the numeral of the digits, as long as there are five of them
at most: the word it is kept in does not overflow. -/
theorem toNat_step {number : UInt32} {ps : List Digit} (d : Digit) (hlen : ps.length < 5)
    (hnumber : number.toNat = Digit.numeral ps) :
    (step number d).toNat = Digit.numeral (ps ++ [d]) := by
  have hlt : Digit.numeral (ps ++ [d]) < Digit.weight (ps.length + 1) := by
    simpa using Digit.numeral_lt (ps ++ [d])
  -- five digits stand for less than the word can hold
  have hweight : Digit.weight (ps.length + 1) ≤ 60466176 := Digit.weight_le hlen
  rw [Digit.numeral_concat] at hlt ⊢
  rw [step, UInt32.toNat_add, UInt32.toNat_mul, hnumber, UInt32.toNat_ofNat',
    show UInt32.toNat 36 = 36 from rfl]
  omega

/-- What is read off a text of five characters is five digits and their number. -/
theorem parseFrom_spells (ps : List Digit) {code : Text} {number : UInt32} {digits : Bytes}
    {rest : Text} {out : UInt32 × Bytes} (hlen : ps.length + rest.length = 5)
    (hdigits : digits = ps.map Digit.byte) (hnumber : number.toNat = Digit.numeral ps)
    (h : parseFrom code number digits rest = .ok out) : Spells out.1 out.2 := by
  induction rest generalizing number digits ps with
  | nil =>
    simp only [parseFrom, Except.ok.injEq] at h
    exact h ▸ ⟨ps, by simpa using hlen, hdigits, hnumber⟩
  | cons c rest ih =>
    rw [List.length_cons] at hlen
    cases hd : Digit.ofChar? c with
    | none => simp [parseFrom, hd] at h
    | some d =>
      simp only [parseFrom, hd] at h
      refine ih (ps ++ [d]) ?_ ?_ (toNat_step d (by omega) hnumber) h
      · simp only [List.length_append, List.length_singleton]
        omega
      · rw [List.map_append, hdigits, Digit.upperByte_of_ofChar? hd, List.map_singleton]

/-- Reads a code. The length is judged before the characters, and those from the left. -/
def parse (code : Text) : Except CodeError SqlState :=
  if hlen : code.length = 5 then
    match h : parseFrom code 0 [] code with
    | .error e => .error e
    | .ok (number, digits) =>
      .ok ⟨number, digits, parseFrom_spells [] (by simpa using hlen) rfl rfl h⟩
  else .error (.length code)

/-! ## Writing a number -/

/-- Writes a number in front of digits in so many places, from the last place on; what the places
do not hold is left out. -/
def spellFrom : Nat → UInt32 → Bytes → Option Bytes
  | 0, _, digits => some digits
  | places + 1, rest, digits =>
    match Digit.charOf? (rest % 36) with
    | none => none
    | some c => spellFrom places (rest / 36) (Digit.upperByte c :: digits)

/-- Every number can be written, and its digits stand for it as far as they go. -/
theorem spellFrom_eq (places : Nat) (rest : UInt32) (digits : Bytes) :
    ∃ ds : List Digit, ds.length = places ∧ Digit.numeral ds = rest.toNat % Digit.weight places
      ∧ spellFrom places rest digits = some (ds.map Digit.byte ++ digits) := by
  induction places generalizing rest digits with
  | zero => exact ⟨[], rfl, by simp [Digit.numeral, Digit.weight, Nat.mod_one], rfl⟩
  | succ places ih =>
    -- the last digit is the remainder, and the digits before it spell the quotient
    have hmod : (rest % 36).toNat = rest.toNat % 36 := UInt32.toNat_mod rest 36
    have hdiv : (rest / 36).toNat = rest.toNat / 36 := UInt32.toNat_div rest 36
    obtain ⟨c, hc, hbyte⟩ := Digit.charOf?_of_lt (n := rest % 36) (by omega)
    obtain ⟨ds, hlen, hnumeral, hspell⟩ := ih (rest / 36) (Digit.upperByte c :: digits)
    rw [hbyte] at hspell
    refine ⟨ds ++ [⟨(rest % 36).toNat, by omega⟩], ?_, ?_, ?_⟩
    · rw [List.length_append, hlen, List.length_singleton]
    · rw [Digit.numeral_concat, hnumeral, hdiv, Digit.weight, Nat.mod_mul]
      simp only [hmod]
      omega
    · simp only [spellFrom, hc, hspell, hbyte, List.map_append, List.map_singleton,
        List.append_assoc, List.singleton_append]

/-- The number of codes. -/
def count : Nat := Digit.weight 5

/-- The largest number of a code. -/
def maxNumber : UInt32 := UInt32.ofNat (count - 1)

/-- The five digits written for a number of a code are its digits. -/
theorem spellFrom_spells {number : UInt32} {digits : Bytes} (hle : ¬ number > maxNumber)
    (h : spellFrom 5 number [] = some digits) : Spells number digits := by
  obtain ⟨ds, hlen, hnumeral, hspell⟩ := spellFrom_eq 5 number []
  rw [h, Option.some.injEq, List.append_nil] at hspell
  have hlt : number.toNat ≤ maxNumber.toNat := UInt32.le_iff_toNat_le.mp (UInt32.not_lt.mp hle)
  have hcount : number.toNat < Digit.weight 5 := Nat.lt_of_le_pred (by decide) hlt
  exact ⟨ds, hlen, hspell, by rw [hnumeral, Nat.mod_eq_of_lt hcount]⟩

/-- The code with a given number, if there is one. -/
def ofNumber? (number : UInt32) : Option SqlState :=
  if hgt : number > maxNumber then none
  else
    match h : spellFrom 5 number [] with
    | none => none
    | some digits => some ⟨number, digits, spellFrom_spells hgt h⟩

/-! ## What a code tells -/

/-- The number of a code: its digits as one base-36 numeral. -/
def value (s : SqlState) : Nat := s.number.toNat

theorem decode?_digits (s : SqlState) :
    Utf8.decode? s.digits = some (s.digits.map fun b => Char.ofNat b.toNat) := by
  obtain ⟨ds, -, hdigits, -⟩ := s.spelled
  refine Utf8.decode?_ascii fun b hb => ?_
  rw [hdigits, List.mem_map] at hb
  obtain ⟨d, -, rfl⟩ := hb
  exact d.byte_lt

/-- The code as it is written: its digits are the bytes of a text. -/
def text (s : SqlState) : Text := (Utf8.decode? s.digits).get (by rw [decode?_digits]; rfl)

/-- The number of codes in a class. -/
def classWidth : UInt32 := UInt32.ofNat (Digit.weight 3)

/-- The bytes of the subclass `000`. -/
def noSubclass : Bytes := List.replicate 3 48

/-- Taking the number of the subclass away never goes below zero. -/
theorem toNat_sub_mod (number : UInt32) :
    (number - number % classWidth).toNat = number.toNat - number.toNat % Digit.weight 3 := by
  have hle : number % classWidth ≤ number := by
    rw [UInt32.le_iff_toNat_le, UInt32.toNat_mod]
    exact Nat.mod_le ..
  rw [UInt32.toNat_sub_of_le _ _ hle, UInt32.toNat_mod]
  rfl

/-- Taking the subclass out of the number and out of the digits leaves the two in agreement. -/
theorem category_spells {number : UInt32} {digits : Bytes} (h : Spells number digits) :
    Spells (number - number % classWidth) (digits.take 2 ++ noSubclass) := by
  obtain ⟨ds, hlen, hdigits, hnumber⟩ := h
  refine ⟨ds.take 2 ++ [0, 0, 0], ?_, ?_, ?_⟩
  · rw [List.length_append, List.length_take, hlen]
    rfl
  · rw [hdigits, List.map_append, List.map_take]
    rfl
  · have hsplit := Digit.numeral_append (ds.take 2) (ds.drop 2)
    rw [List.take_append_drop, List.length_drop, hlen] at hsplit
    -- the number modulo the width of a class is the numeral of the subclass
    have hlow : Digit.numeral (ds.drop 2) < Digit.weight 3 := by
      simpa [hlen] using Digit.numeral_lt (ds.drop 2)
    rw [toNat_sub_mod, hnumber, Digit.numeral_append, show Digit.numeral [0, 0, 0] = 0 from rfl,
      hsplit]
    show _ = Digit.numeral (ds.take 2) * Digit.weight 3 + 0
    rw [show 5 - 2 = 3 from rfl, Nat.mul_comm, Nat.mul_add_mod, Nat.mod_eq_of_lt hlow]
    omega

/-- The category of a code: its class with the subclass `000`. -/
def category (s : SqlState) : SqlState :=
  ⟨s.number - s.number % classWidth, s.digits.take 2 ++ noSubclass, category_spells s.spelled⟩

/-- Whether a code is its own category. -/
def isCategory (s : SqlState) : Bool := s.category = s

/-! ## Order -/

instance : LT SqlState :=
  ⟨fun s t => s.number < t.number ∨ s.number = t.number ∧ s.digits < t.digits⟩

instance : LE SqlState := ⟨fun s t => ¬ t < s⟩

instance (s t : SqlState) : Decidable (s < t) :=
  inferInstanceAs (Decidable (s.number < t.number ∨ s.number = t.number ∧ s.digits < t.digits))

instance (s t : SqlState) : Decidable (s ≤ t) := inferInstanceAs (Decidable (¬ t < s))

/-- The codes in ascending order; equal ones all stay. -/
def sort (codes : List SqlState) : List SqlState :=
  codes.mergeSort fun s t => decide (s ≤ t)

/-- Reads several codes; the first that is none decides. -/
def parseAll (codes : List Text) : Except CodeError (List SqlState) := codes.mapM parse

/-! ## Small facts -/

/-- The characters of a code are those of its digits. -/
theorem text_eq (s : SqlState) : s.text = s.digits.map fun b => Char.ofNat b.toNat := by
  simp only [text, decode?_digits, Option.get_some]

/-- A code is written with five characters. -/
theorem length_text (s : SqlState) : s.text.length = 5 := by
  obtain ⟨ds, hlen, hdigits, -⟩ := s.spelled
  rw [text_eq, List.length_map, hdigits, List.length_map, hlen]

/-- Every number of a code is below the number of codes. -/
theorem value_lt_count (s : SqlState) : s.value < count := by
  obtain ⟨ds, hlen, -, hnumber⟩ := s.spelled
  rw [value, hnumber, count, ← hlen]
  exact Digit.numeral_lt ds

end SqlState

end SqlStates
