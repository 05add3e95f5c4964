/-
Base-36 digits and the numerals they make.

A digit is read from an ASCII digit or from an ASCII letter in either case. Where
digits are kept they are the bytes of `0` to `9` and of the capitals `A` to `Z`; a
numeral is the number that a row of digits stands for, the first weighing most.
-/
import SqlStates.Text.Basic

set_option autoImplicit false

namespace SqlStates

/-- A base-36 digit. -/
abbrev Digit := Fin 36

namespace Digit

/-! ## Characters and bytes -/

/-- The digit that a character stands for: an ASCII digit, or an ASCII letter in either case. -/
def ofChar? (c : Char) : Option Digit :=
  if h : 48 ≤ c.toNat ∧ c.toNat ≤ 57 then some ⟨c.toNat - 48, by omega⟩
  else if h : 65 ≤ c.toNat ∧ c.toNat ≤ 90 then some ⟨c.toNat - 55, by omega⟩
  else if h : 97 ≤ c.toNat ∧ c.toNat ≤ 122 then some ⟨c.toNat - 87, by omega⟩
  else none

/-- The character that a number below 36 is written with, a letter being a small one. -/
def charOf? (n : UInt32) : Option Char :=
  if n < 10 then some (Char.ofNat (48 + n.toNat))
  else if n < 36 then some (Char.ofNat (87 + n.toNat))
  else none

/-- The byte of a character, a letter of ASCII being made a capital first. -/
def upperByte (c : Char) : UInt8 := c.toUpper.toUInt8

/-- The byte that a digit is kept as. -/
def byte (d : Digit) : UInt8 := if d.val < 10 then UInt8.ofNat (48 + d.val) else UInt8.ofNat (55 + d.val)

/-- The character a digit is shown as. -/
def char (d : Digit) : Char := Char.ofNat d.byte.toNat

/-- The bytes of digits are bytes of ASCII. -/
theorem byte_lt (d : Digit) : d.byte.toNat < 0x80 := by
  revert d
  decide

/-- A digit is read back from the character it is shown as. -/
theorem ofChar?_char (d : Digit) : ofChar? d.char = some d := by
  revert d
  decide

/-- Different digits are kept as different bytes. -/
theorem byte_injective {d e : Digit} (h : d.byte = e.byte) : d = e := by
  have hd := ofChar?_char d
  rw [char, h, ← char, ofChar?_char e] at hd
  exact (Option.some.inj hd).symm

/-- Every character that stands for a digit is one of ASCII. -/
theorem lt_of_ofChar? {c : Char} {d : Digit} (h : ofChar? c = some d) : c.toNat < 128 := by
  unfold ofChar? at h
  split at h
  · omega
  · split at h
    · omega
    · split at h
      · omega
      · cases h

/-- What holds of every character of ASCII that stands for a digit holds of every character that
stands for one, so a fact about the reader is a check of 128 cases. -/
theorem of_ofChar? {P : Char → Digit → Prop}
    (hall : ∀ n : Fin 128, ∀ d ∈ ofChar? (Char.ofNat n.val), P (Char.ofNat n.val) d)
    {c : Char} {d : Digit} (h : ofChar? c = some d) : P c d := by
  have hc := hall ⟨c.toNat, lt_of_ofChar? h⟩ d
  rw [Char.ofNat_toNat] at hc
  exact hc h

/-- A character and the digit it stands for have one byte: capitals and small letters agree once
they are made capitals. -/
theorem upperByte_of_ofChar? {c : Char} {d : Digit} (h : ofChar? c = some d) :
    upperByte c = d.byte := by
  refine of_ofChar? (P := fun c d => upperByte c = d.byte) ?_ h
  decide +kernel

/-- A number below 36 has a character, and its byte is that of the digit. -/
theorem charOf?_of_lt {n : UInt32} (h : n.toNat < 36) :
    ∃ c, charOf? n = some c ∧ upperByte c = byte ⟨n.toNat, h⟩ := by
  have hall : ∀ d : Digit, (charOf? (UInt32.ofNat d.val)).map upperByte = some d.byte := by
    decide
  have hn := hall ⟨n.toNat, h⟩
  rw [UInt32.ofNat_toNat] at hn
  exact Option.map_eq_some_iff.mp hn

/-! ## Numerals -/

/-- The number that a row of digits stands for. -/
def numeral (ds : List Digit) : Nat := ds.foldl (fun n d => n * 36 + d.val) 0

/-- What a digit counts for with so many places after it: the number of rows of so many digits. -/
def weight : Nat → Nat
  | 0 => 1
  | places + 1 => 36 * weight places

/-- More places make a digit count for more. -/
theorem weight_le {m n : Nat} (h : m ≤ n) : weight m ≤ weight n := by
  induction h with
  | refl => exact Nat.le_refl _
  | @step n _ ih =>
    have hstep : weight n ≤ 36 * weight n := by omega
    exact Nat.le_trans ih hstep

/-- A row of digits read on from a number puts that number in front of them. -/
theorem foldl_eq (n : Nat) (ds : List Digit) :
    ds.foldl (fun n d => n * 36 + d.val) n = n * weight ds.length + numeral ds := by
  induction ds generalizing n with
  | nil => simp [numeral, weight]
  | cons d ds ih =>
    have hfirst : numeral (d :: ds) = d.val * weight ds.length + numeral ds := by
      simp only [numeral, List.foldl_cons, Nat.zero_mul, Nat.zero_add]
      exact ih d.val
    rw [List.foldl_cons, ih, hfirst, List.length_cons, weight, ← Nat.mul_assoc, Nat.add_mul,
      Nat.add_assoc]

/-- The numeral of two rows of digits, one after the other. -/
theorem numeral_append (ds es : List Digit) :
    numeral (ds ++ es) = numeral ds * weight es.length + numeral es := by
  rw [numeral, List.foldl_append, ← numeral, foldl_eq]

/-- One digit more is one step of multiplying and adding. -/
theorem numeral_concat (ds : List Digit) (d : Digit) :
    numeral (ds ++ [d]) = numeral ds * 36 + d.val := by
  rw [numeral_append]
  simp [numeral, weight]

/-- One digit more in front counts for the places after it. -/
theorem numeral_cons (d : Digit) (ds : List Digit) :
    numeral (d :: ds) = d.val * weight ds.length + numeral ds := by
  rw [numeral, List.foldl_cons, Nat.zero_mul, Nat.zero_add, foldl_eq]

/-- A row of digits stands for less than its length allows. -/
theorem numeral_lt (ds : List Digit) : numeral ds < weight ds.length := by
  induction ds with
  | nil => simp [numeral, weight]
  | cons d ds ih =>
    have hd : (d.val + 1) * weight ds.length ≤ 36 * weight ds.length :=
      Nat.mul_le_mul_right _ d.isLt
    rw [Nat.add_mul, Nat.one_mul] at hd
    rw [numeral_cons, List.length_cons, weight]
    omega

end Digit

end SqlStates
