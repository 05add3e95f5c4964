/-
Punycode: a label with characters beyond ASCII, written in ASCII.

The ASCII characters come first and a hyphen after them. Then each of the others is
put in, in ascending order, by a number: the number of steps from the last one put
in, counting a step for every place in the label and starting over with the next code
point at the label's end. The digits of a number are the letters and the ten
figures; how many values end a number at which digit depends on a bias, which
follows the numbers written so far.
-/
import SqlStates.Text.Basic

set_option autoImplicit false

namespace SqlStates.Url.Punycode

/-! ## Digits -/

/-- The character of a digit: `a` to `z`, then `0` to `9`. -/
def digitChar (n : Nat) : Char := if n < 26 then Char.ofNat (97 + n) else Char.ofNat (22 + n)

/-- The digit that a character stands for, a letter in either case. -/
def digitValue? (c : Char) : Option Nat :=
  if 'a' ≤ c ∧ c ≤ 'z' then some (c.toNat - 97)
  else if 'A' ≤ c ∧ c ≤ 'Z' then some (c.toNat - 65)
  else if '0' ≤ c ∧ c ≤ '9' then some (c.toNat - 22)
  else none

/-- A digit below this ends a number. The first digit of a number has weight 36, the second 72
and so on. -/
def threshold (weight bias : Nat) : Nat :=
  if weight ≤ bias + 1 then 1 else if bias + 26 ≤ weight then 26 else weight - bias

theorem threshold_pos (weight bias : Nat) : 1 ≤ threshold weight bias := by
  unfold threshold
  split <;> (try split) <;> omega

/-! ## The bias -/

/-- Divides by 35 until the quotient is small, counting 36 for each division. -/
def settle (counted n : Nat) : Nat × Nat :=
  if 455 < n then settle (counted + 36) (n / 35) else (counted, n)
termination_by n
decreasing_by exact Nat.div_lt_self (by omega) (by omega)

/-- The bias after a number, when the label has so many characters. The first number of a label
counts for less. -/
def nextBias (number length : Nat) (isFirst : Bool) : Nat :=
  let scaled := number / if isFirst then 700 else 2
  let (counted, n) := settle 0 (scaled + scaled / length)
  counted + 36 * n / (n + 38)

/-- The bias before the first number. -/
def firstBias : Nat := 72

/-! ## Writing -/

/-- The digits of a number from a weight on. -/
def digits (bias weight n : Nat) : Text :=
  let t := threshold weight bias
  if n < t then [digitChar n]
  else digitChar (t + (n - t) % (36 - t)) :: digits bias (weight + 36) ((n - t) / (36 - t))
termination_by n
decreasing_by
  have := threshold_pos weight bias
  exact Nat.lt_of_le_of_lt (Nat.div_le_self _ _) (by omega)

/-- What has been written, the steps since the last character put in, the bias, and the number of
characters of the label that are in. -/
structure Writing where
  written : Text
  steps : Nat
  bias : Nat
  length : Nat

/-- Passes one place of the label while the character `next` is put in; `basic` characters were
there at the start. -/
def Writing.pass (basic : Nat) (next : Nat) (w : Writing) (c : Char) : Writing :=
  if c.toNat < next then { w with steps := w.steps + 1 }
  else if c.toNat = next then
    ⟨w.written ++ digits w.bias 36 w.steps, 0,
      nextBias w.steps (w.length + 1) (w.length == basic), w.length + 1⟩
  else w

/-- Puts in the characters `codes`, in ascending order; the first place left is one for `code`. -/
def writeFrom (label : Text) (basic : Nat) : Nat → List Nat → Writing → Text
  | _, [], w => w.written
  | code, next :: rest, w =>
    let reached := { w with steps := w.steps + (next - code) * (w.length + 1) }
    let passed := label.foldl (Writing.pass basic next) reached
    writeFrom label basic (next + 1) rest { passed with steps := passed.steps + 1 }

/-- The code points of a text beyond ASCII, in ascending order and each once. -/
def othersOf (label : Text) : List Nat :=
  (((label.filter fun c => decide (0x80 ≤ c.toNat)).map Char.toNat).mergeSort).eraseDups

/-- A label in ASCII. -/
def encode (label : Text) : Text :=
  let basic := label.filter fun c => decide (c.toNat < 0x80)
  let start := if basic.isEmpty then [] else basic ++ ['-']
  writeFrom label basic.length 0x80 (othersOf label) ⟨start, 0, firstBias, basic.length⟩

/-! ## Reading -/

/-- No number may be greater than this. -/
def maxNumber : Nat := 0xFFFFFFFF

/-- The label read so far, the code point and the place of the next character if its number is
zero, and the bias. -/
structure Reading where
  label : Text
  code : Nat
  place : Nat
  bias : Nat

/-- A number of which some digits have been read: the place it leads to so far, the weight of
the next digit, and what that digit is to be multiplied by. -/
structure Started where
  place : Nat
  weight : Nat
  factor : Nat

/-- A number that leads on from a place. -/
def Reading.start (r : Reading) : Started := ⟨r.place, 36, 1⟩

/-- Puts in the character that a number stands for, if there is such a character. -/
def Reading.putIn? (r : Reading) (place : Nat) : Option Reading :=
  let length := r.label.length + 1
  let code := r.code + place / length
  if code < 0xD800 || (0xDFFF < code && code ≤ 0x10FFFF) then
    some ⟨r.label.insertIdx (place % length) (Char.ofNat code), code, place % length + 1,
      nextBias (place - r.place) length (r.place == 0)⟩
  else none

/-- Reads digits on; the last of them has to end a number. -/
def readFrom (r : Reading) (number : Started) (isInside : Bool) : Text → Option Text
  | [] => if isInside then none else some r.label
  | c :: rest =>
    match digitValue? c with
    | none => none
    | some digit =>
      let place := number.place + digit * number.factor
      let t := threshold number.weight r.bias
      let factor := number.factor * (36 - t)
      if maxNumber < place then none
      else if digit < t then
        match r.putIn? place with
        | none => none
        | some next => readFrom next next.start false rest
      else if maxNumber < factor then none
      else readFrom r ⟨place, number.weight + 36, factor⟩ true rest

/-- The label that a text in ASCII stands for. Its last hyphen, unless it is the first character,
ends the ASCII characters of the label. -/
def decode? (t : Text) : Option Text :=
  let afterHyphen := (t.reverse.takeWhile (· != '-')).reverse
  let basic := t.take (t.length - afterHyphen.length - 1)
  let start : Reading := ⟨basic, 0x80, 0, firstBias⟩
  readFrom start start.start false (if basic.isEmpty then t else afterHyphen)

end SqlStates.Url.Punycode
