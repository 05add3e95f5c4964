/-
Encoded texts: the bytes of a text are read off as that text.

The bytes of a character leave the reading machine where it was, with that character read:
the first byte opens it with the bits and the range that its length asks for, and every
later byte lies in the range that the one before has left. The second byte is the delicate
one. Its range is narrower after four of the first bytes, and a character stays inside it
because it is not written longer than needed, is no surrogate and is not past the last code
point. So bytes of a text have no stretch that belongs to no character, and the strict
reading and the mending one agree on them.
-/
import Mathlib.Tactic.IntervalCases
import SqlStates.Text.Utf8

set_option autoImplicit false

namespace SqlStates.Utf8

/-! ## Steps of the machine -/

/-- A byte, given by its number, that leaves a character open. -/
theorem unitsFrom_opening {n : Nat} (h : n < 256) {pending : Option Pending}
    {bits low high later : Nat} (hstep : Step.of pending n = Step.opening bits low high later)
    (rest : Bytes) :
    unitsFrom pending (UInt8.ofNat n :: rest) = unitsFrom (some ⟨bits, low, high, later⟩) rest := by
  rw [unitsFrom, UInt8.toNat_ofNat_of_lt' h, hstep]
  rfl

/-- A byte that ends a character. -/
theorem unitsFrom_whole {n : Nat} (h : n < 256) {pending : Option Pending} {code : Nat}
    (hstep : Step.of pending n = Step.whole code) (rest : Bytes) :
    unitsFrom pending (UInt8.ofNat n :: rest) = some (Char.ofNat code) :: unitsFrom none rest := by
  rw [unitsFrom, UInt8.toNat_ofNat_of_lt' h, hstep]
  rfl

namespace Step

theorem first_of_one {n : Nat} (h : n < 0x80) : of none n = whole n := if_pos h

theorem first_of_two {n : Nat} (hlow : 0xC2 ≤ n) (hhigh : n < 0xE0) :
    of none n = opening (n - 0xC0) 0x80 0xBF 0 := by
  rw [of, first, if_neg (by omega), if_neg (by omega), if_pos hhigh]

/-- The first of three bytes; after two of them the range of the second is narrower. -/
theorem first_of_three {n : Nat} (hlow : 0xE0 ≤ n) (hhigh : n < 0xF0) :
    of none n = opening (n - 0xE0) (if n = 0xE0 then 0xA0 else 0x80)
      (if n = 0xED then 0x9F else 0xBF) 1 := by
  interval_cases n <;> rfl

/-- The first of four bytes, with two narrower ranges likewise. -/
theorem first_of_four {n : Nat} (hlow : 0xF0 ≤ n) (hhigh : n < 0xF5) :
    of none n = opening (n - 0xF0) (if n = 0xF0 then 0x90 else 0x80)
      (if n = 0xF4 then 0x8F else 0xBF) 2 := by
  interval_cases n <;> rfl

/-- A byte in its range adds its bits to a character that needs more. -/
theorem next_more {bits low high more n : Nat} (hlow : low ≤ n) (hhigh : n ≤ high) :
    of (some ⟨bits, low, high, more + 1⟩) n
      = opening (bits * 64 + (n - 0x80)) 0x80 0xBF more := by
  rw [of, next, if_pos ⟨hlow, hhigh⟩]

/-- A byte in its range ends a character that needs no other. -/
theorem next_last {bits low high n : Nat} (hlow : low ≤ n) (hhigh : n ≤ high) :
    of (some ⟨bits, low, high, 0⟩) n = whole (bits * 64 + (n - 0x80)) := by
  rw [of, next, if_pos ⟨hlow, hhigh⟩]

end Step

/-! ## Characters -/

/-- **The bytes of a character are read as the character**, and leave nothing open. -/
theorem unitsFrom_utf8EncodeChar (c : Char) (rest : Bytes) :
    unitsFrom none (String.utf8EncodeChar c ++ rest) = some c :: unitsFrom none rest := by
  have hvalid : c.val.toNat < 0xD800 ∨ 0xDFFF < c.val.toNat ∧ c.val.toNat < 0x110000 := c.valid
  have hchar : Char.ofNat c.val.toNat = c := Char.ofNat_toNat c
  unfold String.utf8EncodeChar
  generalize c.val.toNat = v at hvalid hchar
  by_cases hone : v ≤ 0x7F
  · simp only [if_pos hone, List.cons_append, List.nil_append]
    rw [unitsFrom_whole (by omega) (Step.first_of_one (by omega)), hchar]
  by_cases htwo : v ≤ 0x7FF
  · have hcode : (v / 64 % 32 + 192 - 0xC0) * 64 + (v % 64 + 128 - 0x80) = v := by omega
    simp only [if_neg hone, if_pos htwo, List.cons_append, List.nil_append]
    rw [unitsFrom_opening (by omega) (Step.first_of_two (by omega) (by omega)),
      unitsFrom_whole (by omega) (Step.next_last (by omega) (by omega)), hcode, hchar]
  by_cases hthree : v ≤ 0xFFFF
  · -- not longer than needed after E0, and no surrogate after ED
    have hlow : (if v / 4096 % 16 + 224 = 0xE0 then 0xA0 else 0x80) ≤ v / 64 % 64 + 128 := by
      split <;> omega
    have hhigh : v / 64 % 64 + 128 ≤ if v / 4096 % 16 + 224 = 0xED then 0x9F else 0xBF := by
      split <;> omega
    have hcode : ((v / 4096 % 16 + 224 - 0xE0) * 64 + (v / 64 % 64 + 128 - 0x80)) * 64
        + (v % 64 + 128 - 0x80) = v := by omega
    simp only [if_neg hone, if_neg htwo, if_pos hthree, List.cons_append, List.nil_append]
    rw [unitsFrom_opening (by omega) (Step.first_of_three (by omega) (by omega)),
      unitsFrom_opening (by omega) (Step.next_more hlow hhigh),
      unitsFrom_whole (by omega) (Step.next_last (by omega) (by omega)), hcode, hchar]
  · -- not longer than needed after F0, and not past the last code point after F4
    have hlow : (if v / 262144 % 8 + 240 = 0xF0 then 0x90 else 0x80) ≤ v / 4096 % 64 + 128 := by
      split <;> omega
    have hhigh : v / 4096 % 64 + 128 ≤ if v / 262144 % 8 + 240 = 0xF4 then 0x8F else 0xBF := by
      split <;> omega
    have hcode : (((v / 262144 % 8 + 240 - 0xF0) * 64 + (v / 4096 % 64 + 128 - 0x80)) * 64
        + (v / 64 % 64 + 128 - 0x80)) * 64 + (v % 64 + 128 - 0x80) = v := by omega
    simp only [if_neg hone, if_neg htwo, if_neg hthree, List.cons_append, List.nil_append]
    rw [unitsFrom_opening (by omega) (Step.first_of_four (by omega) (by omega)),
      unitsFrom_opening (by omega) (Step.next_more hlow hhigh),
      unitsFrom_opening (by omega) (Step.next_more (by omega) (by omega)),
      unitsFrom_whole (by omega) (Step.next_last (by omega) (by omega)), hcode, hchar]

/-! ## Texts -/

/-- **The bytes of a text have its characters as their units**, and no stretch beside them. -/
theorem units_encode (t : Text) : units (encode t) = t.map some := by
  induction t with
  | nil => rfl
  | cons c t ih =>
    have hencode : encode (c :: t) = String.utf8EncodeChar c ++ encode t := rfl
    rw [hencode, units, unitsFrom_utf8EncodeChar, List.map_cons, ← ih, units]

theorem decode?_encode (t : Text) : decode? (encode t) = some t := by
  rw [decode?, units_encode]
  induction t with
  | nil => rfl
  | cons c t ih =>
    rw [List.map_cons, List.mapM_cons, ih]
    rfl

/-- Nothing is mended in the bytes of a text. -/
theorem decodeMending_encode (t : Text) : decodeMending (encode t) = t := by
  rw [decodeMending, units_encode, List.map_map]
  exact List.map_id t

/-- A byte that no character starts with. -/
theorem units_stray {b : UInt8} (h : 0xF5 ≤ b.toNat) (rest : Bytes) :
    units (b :: rest) = none :: units rest := by
  have hstep : Step.of none b.toNat = Step.stray := by
    simp only [Step.of, Step.first]
    repeat rw [if_neg (by omega)]
  rw [units, unitsFrom, hstep]
  rfl

/-- The bytes of a text do not start with one that no character starts with. -/
theorem toNat_lt_of_head?_encode {t : Text} {b : UInt8} (h : (encode t).head? = some b) :
    b.toNat < 0xF5 := by
  obtain ⟨rest, hrest⟩ := List.head?_eq_some_iff.mp h
  by_contra hstray
  have hunits := units_encode t
  rw [hrest, units_stray (Nat.le_of_not_lt hstray)] at hunits
  cases t with
  | nil => cases hunits
  | cons c t => cases hunits

theorem dropMark_of_head? {t : Text} (h : t.head? ≠ some '\uFEFF') : dropMark t = t := by
  unfold dropMark
  split
  · exact absurd rfl h
  · rfl

end SqlStates.Utf8
