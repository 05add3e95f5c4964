/-
Well-formed patterns.

A pattern is an expression over characters: groups in parentheses, choices between
bars, classes in brackets, characters after a backslash, and repetition signs, each
of which needs something before it to repeat. Nothing is matched here; a text is only
told to be a pattern or not. Classes that go by properties of characters are no part
of the language, and neither are counted repetitions.
-/
import SqlStates.Text.Alphanumeric

set_option autoImplicit false

namespace SqlStates.Text.Pattern

/-! ## Escapes -/

/-- The code point that so many hexadecimal digits give, and what follows them. -/
def codeOfDigits? (count : Nat) (t : Text) : Option (Nat × Text) :=
  let digits := t.take count
  let code := CharSet.number digits
  if digits.length = count && digits.all (fun c => (hexValue? c).isSome)
      && (code < 0xD800 || (0xDFFF < code && code ≤ 0x10FFFF))
  then some (code, t.drop count) else none

/-- Reads what follows a backslash: a character, or with `none` one of the two ends of a text. -/
def escaped? : Text → Option (Option Nat × Text)
  | [] => none
  | c :: rest =>
    let byDigits := fun count =>
      (codeOfDigits? count rest).map fun (code, after) => (some code, after)
    if c == 'x' then byDigits 2
    else if c == 'u' then byDigits 4
    else if c == 'U' then byDigits 8
    else if c == 'A' || c == 'z' then some (none, rest)
    else if "aftnrv".toList.contains c then
      some (some (if c == 'a' then 7 else if c == 'f' then 12 else if c == 't' then 9
        else if c == 'n' then 10 else if c == 'r' then 13 else 11), rest)
    else if c.toNat < 0x80 && !c.isAlphanum && c != '<' && c != '>' then some (some c.toNat, rest)
    else none

/-! ## Classes -/

/-- Reads a character of a class, which may be written with a backslash. -/
def member? : Text → Option (Nat × Text)
  | [] => none
  | '\\' :: rest =>
    match escaped? rest with
    | some (some code, after) => some (code, after)
    | _ => none
  | c :: rest => some (c.toNat, rest)

/-- Reads a character of a class or a range of them. A hyphen before a bracket or another hyphen
makes no range, and a range does not go down. -/
def members? (t : Text) : Option Text :=
  match member? t with
  | none => none
  | some (low, '-' :: c :: rest) =>
    if c == ']' || c == '-' then some ('-' :: c :: rest)
    else
      match member? (c :: rest) with
      | some (high, after) => if low ≤ high then some after else none
      | none => none
  | some (_, after) => some after

/-- What follows the opening of a class and the signs that mean themselves there: a closing
bracket, or hyphens. -/
def afterOpening (t : Text) : Text :=
  let members := match t with
    | '^' :: rest => rest
    | _ => t
  match members with
  | ']' :: rest => rest
  | _ => members.dropWhile (· == '-')

/-- Reads on to the end of the outermost of `nested + 1` classes, in so many steps at most. -/
def afterClass? (nested : Nat) : Nat → Text → Option Text
  | 0, _ => none
  | _, [] => none
  | fuel + 1, '[' :: rest => afterClass? (nested + 1) fuel (afterOpening rest)
  | fuel + 1, ']' :: rest =>
    match nested with
    | 0 => some rest
    | fewer + 1 => afterClass? fewer fuel rest
  | fuel + 1, c :: rest =>
    if (c == '&' || c == '-' || c == '~') && rest.head? == some c then
      afterClass? nested fuel rest.tail
    else
      match members? (c :: rest) with
      | some after => afterClass? nested fuel after
      | none => none

/-! ## Groups -/

/-- Whether a text can name a group. -/
def isGroupName (name : Text) : Bool :=
  match name with
  | [] => false
  | c :: rest =>
    (c == '_' || (alphanumeric.has c && !c.isDigit))
      && rest.all fun d => "_.[]".toList.contains d || alphanumeric.has d

/-- Reads the rest of a group's name. -/
def afterGroupName? (t : Text) : Option Text :=
  let name := t.takeWhile (· != '>')
  match t.drop name.length with
  | [] => none
  | _ :: rest => if isGroupName name then some rest else none

/-- Whether a text sets flags: letters each given once, with at most one hyphen, which is not the
last. That letters are the same in either case cannot be asked for. -/
def isFlags (t : Text) : Bool :=
  t.all "imsUuRx-".toList.contains && t.Nodup && t.getLast? != some '-'
    && !(t.takeWhile (· != '-')).contains 'i'

/-- Reads what stands between the parenthesis of a group and its content: what follows, and
whether a group is open. -/
def afterGroupStart? (t : Text) : Option (Text × Bool) :=
  match t with
  | '?' :: 'P' :: '<' :: rest => (afterGroupName? rest).map fun after => (after, true)
  | '?' :: '<' :: rest => (afterGroupName? rest).map fun after => (after, true)
  | '?' :: rest =>
    let flags := rest.takeWhile fun c => c != ':' && c != ')'
    if !isFlags flags then none
    else
      match rest.drop flags.length with
      | ':' :: after => some (after, true)
      | ')' :: after => if flags.isEmpty then none else some (after, false)
      | _ => none
  | _ => some (t, true)

/-! ## Patterns -/

/-- Reads a pattern to its end in so many steps at most, with `groups` open and perhaps something
before it that can be repeated. -/
def readFrom (groups : Nat) (isRepeatable : Bool) : Nat → Text → Bool
  | 0, _ => false
  | _, [] => groups = 0
  | fuel + 1, c :: rest =>
    if c == '(' then
      match afterGroupStart? rest with
      | some (after, isOpen) => readFrom (if isOpen then groups + 1 else groups) false fuel after
      | none => false
    else if c == ')' then groups != 0 && readFrom (groups - 1) true fuel rest
    else if c == '|' then readFrom groups false fuel rest
    else if c == '*' || c == '+' || c == '?' then isRepeatable && readFrom groups true fuel rest
    else if c == '\x7B' then false
    else if c == '[' then
      match afterClass? 0 (rest.length + 1) (afterOpening rest) with
      | some after => readFrom groups true fuel after
      | none => false
    else if c == '\\' then
      match escaped? rest with
      | some (_, after) => readFrom groups true fuel after
      | none => false
    else readFrom groups true fuel rest

/-- Whether a text is a pattern. -/
def isPattern (t : Text) : Bool := readFrom 0 false (t.length + 1) t

end SqlStates.Text.Pattern
