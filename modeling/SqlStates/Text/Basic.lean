/-
Texts, and the small vocabulary everything else is written in.

A text is a list of Unicode scalar values, so its length counts characters,
a cut can never fall inside one, and every statement about texts is a
statement about lists. Bytes appear only where texts leave or enter the
program: files, network bodies and sinks.
-/
set_option autoImplicit false

namespace SqlStates

/-- A text: its characters in order. -/
abbrev Text := List Char

/-- What a file, a network body or a sink holds. -/
abbrev Bytes := List UInt8

namespace Text

/-- The decimal numeral of a number, with no sign and no leading zero. -/
def decimal (n : Nat) : Text := Nat.toDigits 10 n

/-- The value of a hexadecimal digit, in either case. -/
def hexValue? (c : Char) : Option Nat :=
  if '0' ≤ c ∧ c ≤ '9' then some (c.toNat - 48)
  else if 'A' ≤ c ∧ c ≤ 'F' then some (c.toNat - 55)
  else if 'a' ≤ c ∧ c ≤ 'f' then some (c.toNat - 87)
  else none

/-- Whether every character is one of ASCII. -/
def isAscii (t : Text) : Bool := t.all fun c => decide (c.toNat < 0x80)

/-- A text between double quotes, with nothing in it escaped. -/
def quoted (t : Text) : Text := '"' :: t ++ ['"']

/-- The text with its capital letters `A` to `Z` made small, and nothing else changed. -/
def asciiLower (t : Text) : Text := t.map Char.toLower

end Text

end SqlStates
