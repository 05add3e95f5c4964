/-
Errors: what the reading of codes, lines, catalogs and modes reports.

Each reader has causes of its own, and a type that holds just those. This is the
type they all turn into, with the one wording of each cause. An error about a line
holds the error about its text, so errors nest; `root` is the innermost one.
-/
import SqlStates.Text.Basic

set_option autoImplicit false

namespace SqlStates

/-- What went wrong in reading a text. -/
inductive Error where
  /-- A line has only `found` words. -/
  | tooFewFields (found : Nat)
  /-- A code has `len` characters, not five. -/
  | codeLength (code : Text) (len : Nat)
  /-- `found` is the first character of a code that is not a digit. -/
  | codeDigit (code : Text) (found : Char)
  /-- A label does not start with the marker. -/
  | missingMarker (label : Text)
  /-- No mode has this name. -/
  | unknownMode (name : Text)
  /-- The line with this number, trimmed, is at fault, for the reason `source`. -/
  | line (number : Nat) (text : Text) (source : Error)
  deriving DecidableEq

namespace Error

/-- The wording of an error. -/
def message : Error → Text
  | tooFewFields found => "expected at least 3 fields, found ".toList ++ Text.decimal found
  | codeLength code len =>
    "sqlstate ".toList ++ code.quoted ++ " must be exactly 5 characters long, found ".toList
      ++ Text.decimal len
  | codeDigit code found =>
    "sqlstate ".toList ++ code.quoted ++ " contains '".toList
      ++ found :: "', which is not a base-36 digit".toList
  | missingMarker label =>
    "error name ".toList ++ label.quoted ++ " must start with ERRCODE_".toList
  | unknownMode name =>
    "unknown output mode ".toList ++ name.quoted ++ " (expected enum-values or switch-cases)".toList
  | line number text source =>
    "line ".toList ++ Text.decimal number ++ ": ".toList ++ source.message ++ ": ".toList ++ text

/-- The error itself, without the lines it is about. -/
def root : Error → Error
  | line _ _ source => source.root
  | error => error

/-- The number of the line an error is about. -/
def line? : Error → Option Nat
  | line number _ _ => some number
  | _ => none

end Error

end SqlStates
