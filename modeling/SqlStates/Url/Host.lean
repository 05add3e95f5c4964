/-
Hosts of URLs: names, IPv4 addresses and IPv6 addresses.

The host of a special scheme is read leniently and written in one form: escapes
are undone, names are put into ASCII, and whatever ends in a number has to be an IPv4
address, whose parts may be decimal, octal or hexadecimal and the last of which
may stand for several bytes. A host in brackets is an IPv6 address. The host of
any other scheme is kept as it stands.
-/
import SqlStates.Url.Escape
import SqlStates.Url.Name

set_option autoImplicit false

namespace SqlStates.Url

/-- A host. -/
inductive Host where
  /-- A name, or any host of a scheme that is not special. -/
  | name (text : Text)
  | ipv4 (address : Nat)
  /-- Eight pieces of 16 bits. -/
  | ipv6 (pieces : List Nat)
  deriving DecidableEq

namespace Host

/-! ## IPv4 -/

/-- The number that digits of a base make, if they are all digits of it. -/
def digitsValue? (base : Nat) (digits : Text) : Option Nat :=
  digits.foldl
    (fun total c =>
      match total, Text.hexValue? c with
      | some n, some d => if d < base then some (n * base + d) else none
      | _, _ => none)
    (some 0)

/-- The number a part of an IPv4 address stands for: hexadecimal after `0x`, octal after `0`,
decimal otherwise. -/
def ipv4Number? (part : Text) : Option Nat :=
  match part with
  | [] => none
  | '0' :: 'x' :: digits => digitsValue? 16 digits
  | '0' :: 'X' :: digits => digitsValue? 16 digits
  | '0' :: d :: digits => digitsValue? 8 (d :: digits)
  | digits => digitsValue? 10 digits

/-- The parts between the dots of a host, without an empty one at the end. -/
def dotParts (t : Text) : List Text :=
  let parts := t.splitOn '.'
  if 1 < parts.length && parts.getLast? == some [] then parts.dropLast else parts

/-- Whether a host is meant as an IPv4 address: its last part is a number, or looks like one. -/
def endsInNumber (t : Text) : Bool :=
  match (dotParts t).getLast? with
  | none => false
  | some part => (!part.isEmpty && part.all Char.isDigit) || (ipv4Number? part).isSome

/-- The address that parts stand for: each but the last is one byte, and the last is all the
bytes that remain. -/
def ipv4OfParts (total : Nat) : List Nat → Nat → Option Nat
  | [], _ => none
  | [last], left => if last < Nat.pow 256 left then some (total * Nat.pow 256 left + last) else none
  | part :: rest, left =>
    if part < 256 then ipv4OfParts (total * 256 + part) rest (left - 1) else none

/-- Reads an IPv4 address. -/
def parseIpv4? (t : Text) : Option Host :=
  let parts := dotParts t
  if 4 < parts.length then none
  else
    match parts.mapM ipv4Number? with
    | none => none
    | some numbers => (ipv4OfParts 0 numbers 4).map ipv4

/-! ## IPv6 -/

/-- A piece of an IPv6 address: one to four hexadecimal digits. -/
def ipv6Piece? (part : Text) : Option Nat :=
  if part.isEmpty || 4 < part.length then none else digitsValue? 16 part

/-- The two pieces that a dotted address at the end of an IPv6 address stands for: four decimal
bytes without leading zeros. -/
def ipv6Tail? (part : Text) : Option (List Nat) :=
  let bytes := part.splitOn '.'
  if bytes.length != 4 || bytes.any (fun b => b.isEmpty || (1 < b.length && b.head? == some '0'))
  then none
  else
    match bytes.mapM (digitsValue? 10) with
    | some [a, b, c, d] =>
      if a < 256 && b < 256 && c < 256 && d < 256 then some [a * 256 + b, c * 256 + d] else none
    | _ => none

/-- The pieces between colons; the last part may be a dotted address. -/
def ipv6Pieces? : List Text → Option (List Nat)
  | [] => some []
  | [part] => if part.contains '.' then ipv6Tail? part else (ipv6Piece? part).map fun n => [n]
  | part :: rest =>
    match ipv6Piece? part, ipv6Pieces? rest with
    | some n, some ns => some (n :: ns)
    | _, _ => none

/-- The pieces of one side of a double colon, which may be empty. -/
def ipv6Side? (t : Text) : Option (List Nat) :=
  if t.isEmpty then some [] else ipv6Pieces? (t.splitOn ':')

/-- The parts before and after the first double colon. -/
def splitDoubleColon : Text → Option (Text × Text)
  | [] => none
  | ':' :: ':' :: rest => some ([], rest)
  | c :: rest => (splitDoubleColon rest).map fun (before, after) => (c :: before, after)

/-- Reads an IPv6 address: eight pieces, or fewer with a double colon for the zeros left out. -/
def parseIpv6? (t : Text) : Option Host :=
  match splitDoubleColon t with
  | none =>
    match ipv6Pieces? (t.splitOn ':') with
    | some pieces => if pieces.length = 8 then some (ipv6 pieces) else none
    | none => none
  | some (before, after) =>
    match ipv6Side? before, ipv6Side? after with
    | some front, some back =>
      if front.length + back.length < 8 && !before.contains '.' then
        some (ipv6 (front ++ List.replicate (8 - front.length - back.length) 0 ++ back))
      else none
    | _, _ => none

/-! ## Reading -/

/-- The characters no host may hold. -/
def forbidden (c : Char) : Bool :=
  " #/:<>?@[\\]^|".toList.contains c || c == '\x00' || c == '\t' || c == '\n' || c == '\r'

/-- The characters no host of a special scheme may hold. -/
def forbiddenInName (c : Char) : Bool :=
  forbidden c || c.toNat < 0x20 || c == '%' || 0x7E < c.toNat

/-- What stands between the brackets around a text. -/
def bracketed? (t : Text) : Option Text :=
  match t with
  | '[' :: rest => if rest.getLast? = some ']' then some rest.dropLast else none
  | _ => none

/-- Reads a name in ASCII. -/
def ofName? (t : Text) : Option Host :=
  if t.isEmpty || t.any forbiddenInName then none
  else if endsInNumber t then parseIpv4? t
  else some (name t)

/-- Reads the host of a special scheme. -/
def parseSpecial? (t : Text) : Option Host :=
  if t.head? = some '[' then (bracketed? t).bind parseIpv6?
  else (Name.toAscii? (Utf8.decodeMending (unescape t))).bind ofName?

/-- Reads the host of a scheme that is not special. -/
def parseOpaque? (t : Text) : Option Host :=
  if t.head? = some '[' then (bracketed? t).bind parseIpv6?
  else if t.any forbidden then none
  else some (name (escape [] t))

/-! ## Writing -/

/-- An IPv4 address with its bytes in decimal. -/
def ipv4Text (address : Nat) : Text :=
  Text.decimal (address / 0x1000000) ++ '.' :: Text.decimal (address / 0x10000 % 256)
    ++ '.' :: Text.decimal (address / 0x100 % 256) ++ '.' :: Text.decimal (address % 256)

/-- The number of zeros that pieces start with. -/
def zeros (pieces : List Nat) : Nat := (pieces.takeWhile fun n => n == 0).length

/-- The length of the longest run of zeros. -/
def longestZeros : List Nat → Nat
  | [] => 0
  | n :: rest => max (zeros (n :: rest)) (longestZeros rest)

/-- Pieces in hexadecimal, with colons between them. -/
def piecesText (pieces : List Nat) : Text :=
  [':'].intercalate (pieces.map fun n => Nat.toDigits 16 n)

/-- The place of the first run of `run` zeros. -/
def zerosAt (run : Nat) : List Nat → Nat
  | [] => 0
  | n :: rest => if zeros (n :: rest) = run then 0 else zerosAt run rest + 1

/-- An IPv6 address with a double colon for its first longest run of zeros, if one is longer
than a single piece. -/
def ipv6Text (pieces : List Nat) : Text :=
  let run := longestZeros pieces
  if run < 2 then piecesText pieces
  else
    let place := zerosAt run pieces
    piecesText (pieces.take place) ++ "::".toList ++ piecesText (pieces.drop (place + run))

/-- A host as it is written in a URL. -/
def text : Host → Text
  | name t => t
  | ipv4 address => ipv4Text address
  | ipv6 pieces => '[' :: ipv6Text pieces ++ [']']

end Host

end SqlStates.Url
