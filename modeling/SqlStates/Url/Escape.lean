/-
Percent-encoding: a character that may not stand in some part of a URL is written
as its UTF-8 bytes, each as `%` and two hexadecimal digits.
-/
import SqlStates.Text.Utf8

set_option autoImplicit false

namespace SqlStates.Url

/-- The character of a hexadecimal digit, a capital if it is a letter. -/
def hexChar (n : Nat) : Char := if n < 10 then Char.ofNat (48 + n) else Char.ofNat (55 + n)

/-- A byte as `%` and two digits. -/
def escapeByte (byte : UInt8) : Text := ['%', hexChar (byte.toNat / 16), hexChar (byte.toNat % 16)]

/-- The text with every character outside printable ASCII, and every one of `more`, escaped. -/
def escape (more : Text) (t : Text) : Text :=
  t.flatMap fun c =>
    if c.toNat < 0x20 || 0x7E < c.toNat || more.contains c
    then (String.utf8EncodeChar c).flatMap escapeByte else [c]

/-- The bytes of a text with its escapes undone. -/
def unescape : Text → Bytes
  | [] => []
  | '%' :: a :: b :: rest =>
    match Text.hexValue? a, Text.hexValue? b with
    | some high, some low => UInt8.ofNat (high * 16 + low) :: unescape rest
    | _, _ => String.utf8EncodeChar '%' ++ unescape (a :: b :: rest)
  | c :: rest => String.utf8EncodeChar c ++ unescape rest

/-! ## What may not stand where -/

/-- Escaped in a fragment. -/
def fragmentSet : Text := " \"<>`".toList

/-- Escaped in a query. -/
def querySet : Text := " \"#<>".toList

/-- Escaped in the query of a special scheme. -/
def specialQuerySet : Text := " \"#<>'".toList

/-- Escaped in a path. -/
def pathSet : Text := [' ', '"', '#', '<', '>', '?', '\x60', '\x7B', '\x7D']

/-- Escaped in a user name and in a password. -/
def userSet : Text := pathSet ++ "/:;=@[\\]^|".toList

end SqlStates.Url
