/-
Schemes of URLs.

The schemes `http`, `https`, `ws`, `wss`, `ftp` and `file` are special: they have a
hierarchical path, slashes may be written as backslashes, and all but `file` need
a host.
-/
import SqlStates.Text.Basic

set_option autoImplicit false

namespace SqlStates.Url

/-- The number that a special scheme with a host has after the host when none is given. -/
def usualPort? (scheme : Text) : Option Nat :=
  if scheme = "http".toList || scheme = "ws".toList then some 80
  else if scheme = "https".toList || scheme = "wss".toList then some 443
  else if scheme = "ftp".toList then some 21
  else none

/-- Whether a scheme names local files. -/
def isFile (scheme : Text) : Bool := scheme = "file".toList

/-- Whether a scheme is read in the special way. -/
def isSpecial (scheme : Text) : Bool := isFile scheme || (usualPort? scheme).isSome

/-- Whether a character may stand in a scheme after the first. -/
def isSchemeChar (c : Char) : Bool :=
  c.isAlphanum || c == '+' || c == '-' || c == '.'

/-- The scheme of a text, in small letters, and what follows its colon. -/
def scheme? (t : Text) : Option (Text × Text) :=
  match t, t.dropWhile isSchemeChar with
  | c :: _, ':' :: rest =>
    if c.isAlpha then some (Text.asciiLower (t.takeWhile isSchemeChar), rest) else none
  | _, _ => none

/-- Whether a character separates segments. -/
def isSlash (special : Bool) (c : Char) : Bool := c == '/' || (special && c == '\\')

end SqlStates.Url
