/-
Directives of a filter for notices, as they are written.

A directive is a level, or a target, or both with `=` between them. Behind the target
may stand a scope in brackets: the name of a span and, in braces, a field that a
notice has to have, perhaps with a pattern for its value. A directive without a level
shows every level.

Blanks around a directive are left out when its parts are looked for, but the places
of the parts are counted from its first byte, blanks included. So a directive with
blanks before it is cut too early, and what is cut through the bytes of a
character is no part.
-/
import SqlStates.Notice
import SqlStates.Text.Blank
import SqlStates.Text.Pattern

set_option autoImplicit false

namespace SqlStates

/-- A field that a notice has to have. -/
structure FieldTest where
  name : Text
  /-- Whether the value of the field has to fit as well. -/
  hasValue : Bool
  deriving DecidableEq

/-- What is shown of some notices: the levels down to `level`, or nothing. -/
structure Directive where
  /-- What the target of a notice begins with. -/
  target : Option Text
  /-- The span that a notice is made in. -/
  span : Option Text
  field : Option FieldTest
  level : Option Level
  deriving DecidableEq

namespace Directive

/-! ## Levels -/

/-- The number that decimal digits stand for, which may have a plus sign before them. -/
def number? (t : Text) : Option Nat :=
  let digits := match t with
    | '+' :: rest => rest
    | _ => t
  if !digits.isEmpty && digits.all Char.isDigit then
    some (digits.foldl (fun n c => n * 10 + (c.toNat - 48)) 0)
  else none

/-- The level a text names, with `none` for the one that shows nothing: a word in either case or
a number. -/
def level? (t : Text) : Option (Option Level) :=
  let small := Text.asciiLower t
  if small = "off".toList || number? t = some 0 then some none
  else
    (Level.all.find? fun l => Text.asciiLower l.label == small || number? t == some l.rank).map some

/-! ## Fields -/

/-- Whether a text is a number with a fraction or an exponent, or none of the two. -/
def isDecimal (t : Text) : Bool :=
  let whole := t.takeWhile Char.isDigit
  let behind := t.drop whole.length
  let fraction := match behind with
    | '.' :: rest => rest.takeWhile Char.isDigit
    | _ => []
  let exponent := if behind.head? == some '.' then behind.drop (fraction.length + 1) else behind
  let power := match exponent with
    | _ :: '+' :: digits => digits
    | _ :: '-' :: digits => digits
    | _ :: digits => digits
    | [] => []
  !(whole ++ fraction).isEmpty && (exponent.isEmpty
    || (Text.asciiLower (exponent.take 1) == ['e'] && !power.isEmpty && power.all Char.isDigit))

/-- Whether a text is a number with a plus sign before it. -/
def isPlusNumber (t : Text) : Bool :=
  match t with
  | '+' :: rest =>
    ["inf".toList, "infinity".toList, "nan".toList].contains (Text.asciiLower rest)
      || isDecimal rest
  | _ => false

/-- Whether a value can be asked for: a number, or a pattern. A number without a plus sign is a
pattern too. -/
def isValue (t : Text) : Bool := isPlusNumber t || Text.Pattern.isPattern t

/-- Reads what stands in braces: a name and, behind `=`, a value. A second `=` ends the value. -/
def field? (t : Text) : Option FieldTest :=
  match t.splitOn '=' with
  | name :: value :: _ => if isValue value then some ⟨name, true⟩ else none
  | _ => if t.isEmpty then none else some ⟨t, false⟩

/-! ## Reading -/

/-- How far a directive has been read. The places are those where an unfinished part starts. -/
inductive Stage where
  | start
  | levelOrTarget (place : Nat)
  | span (place : Nat)
  | field (place : Nat)
  | afterField
  | afterScope
  | level (place : Nat)

/-- The parts of a directive that have been read, with a level that shows all until another is
found, and how far that is. -/
structure Scan where
  found : Directive
  stage : Stage

/-- Nothing read. -/
def Scan.empty : Scan := ⟨⟨none, none, none, some .trace⟩, .start⟩

/-- The text between two places of another, counted in bytes. -/
def slice? (t : Text) (start stop : Nat) : Option Text :=
  Utf8.decode? (((Utf8.encode t).take stop).drop start)

/-- Whether a directive may start with a character. -/
def isFirstChar (c : Char) : Bool :=
  c == '-' || c == ':' || c == '_' || Text.alphanumeric.has c

/-- Reads the character of a directive `piece` at a place. -/
def Scan.step? (piece : Text) (place : Nat) (c : Char) (s : Scan) : Option Scan :=
  match s.stage with
  | .start =>
    if c == '[' then some { s with stage := .span (place + 1) }
    else if isFirstChar c then some { s with stage := .levelOrTarget place }
    else none
  | .levelOrTarget start =>
    let withTarget := fun stage =>
      (slice? piece start place).map fun t => ⟨{ s.found with target := some t }, stage⟩
    if c == '=' then withTarget (.level (place + 1))
    else if c == '[' then withTarget (.span (place + 1))
    else some s
  | .span start =>
    if c == ']' then
      (slice? piece start place).map fun t => ⟨{ s.found with span := some t }, .afterScope⟩
    else if c == '\x7B' then
      (slice? piece start place).map fun t =>
        ⟨{ s.found with span := if t.isEmpty then none else some t }, .field (place + 1)⟩
    else some s
  | .field start =>
    if c == '\x7D' then
      ((slice? piece start place).bind field?).map fun f =>
        ⟨{ s.found with field := some f }, .afterField⟩
    else some s
  | .afterField => if c == ']' then some { s with stage := .afterScope } else none
  | .afterScope => if c == '=' then some { s with stage := .level (place + 1) } else none
  | .level _ => some s

/-- Reads the characters of a directive `piece` from a place on. -/
def Scan.run? (piece : Text) : Nat → Text → Scan → Option Scan
  | _, [], s => some s
  | place, c :: rest, s =>
    match s.step? piece place c with
    | none => none
    | some next => Scan.run? piece (place + c.utf8Size) rest next

/-- The directive that has been read, with its last part. -/
def Scan.finish? (piece : Text) (s : Scan) : Option Directive :=
  let tail? := fun start => slice? piece start (Utf8.encode piece).length
  match s.stage with
  | .levelOrTarget start =>
    (tail? start).map fun t =>
      match level? t with
      | some level => { s.found with level := level }
      | none => { s.found with target := some t }
  | .level start =>
    (tail? start).bind fun t =>
      if t.isEmpty then some s.found
      else (level? t).map fun level => { s.found with level := level }
  | .afterScope => some s.found
  | _ => none

/-- Reads a directive. -/
def parse? (piece : Text) : Option Directive :=
  (Scan.run? piece 0 (Text.trim piece) .empty).bind fun s => s.finish? piece

/-! ## Deciding -/

/-- Whether a directive covers a notice. No notice is made in a span, and a directive that asks
for a value is for spans. -/
def covers (d : Directive) (n : Notice) : Bool :=
  d.span.isNone && d.target.all (fun t => t.isPrefixOf n.target)
    && d.field.all fun f => !f.hasValue && n.fields.contains f.name

/-- Whether a directive shows a level. -/
def shows (d : Directive) (level : Level) : Bool :=
  match d.level with
  | none => false
  | some least => decide (level.rank ≤ least.rank)

/-- Whether a field gives way to another: to the one whose name is not lower, and none to any. -/
def fieldGivesWay : Option FieldTest → Option FieldTest → Bool
  | none, _ => true
  | some _, none => false
  | some f, some g => !g.name.lex f.name fun a b => decide (a.toNat < b.toNat)

/-- Whether a directive gives way to a later one that covers the same notice: the longer target
decides, then the field. -/
def givesWay (d later : Directive) : Bool :=
  let size := fun (e : Directive) => match e.target with | none => 0 | some t => t.length + 1
  size d < size later || (size d == size later && fieldGivesWay d.field later.field)

end Directive

end SqlStates
