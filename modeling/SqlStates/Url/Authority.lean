/-
Authorities of URLs: what stands between the two slashes and the path. That is a
host, before it perhaps a user with a password, and after it perhaps a number.
-/
import SqlStates.Url.Host
import SqlStates.Url.Scheme

set_option autoImplicit false

namespace SqlStates.Url

/-- A user name and a password in escaped form. Either may be empty. -/
structure Credentials where
  user : Text
  password : Text
  deriving DecidableEq

/-- What stands between the slashes. -/
structure Authority where
  credentials : Option Credentials
  host : Host
  /-- The number after the host, if it is not the usual one of the scheme. -/
  portNumber : Option Nat
  deriving DecidableEq

namespace Credentials

/-- Reads a user and, after the first colon, a password. With both empty there are none. -/
def of? (t : Text) : Option Credentials :=
  let user := t.takeWhile (· != ':')
  let password := t.drop (user.length + 1)
  if user.isEmpty && password.isEmpty then none
  else some ⟨escape userSet user, escape userSet password⟩

/-- Credentials as they are written before a host. -/
def text (c : Credentials) : Text :=
  c.user ++ (if c.password.isEmpty then [] else ':' :: c.password) ++ ['@']

/-- Whether the escapes of a text stand for a text. -/
def isReadable (t : Text) : Bool := (Utf8.decode? (unescape t)).isSome

/-- Whether a request can carry the credentials apart from its URL: the user has to be readable,
and there has to be one or a readable password. -/
def canBeSent (c : Credentials) : Bool :=
  isReadable c.user && (!c.user.isEmpty || isReadable c.password)

end Credentials

namespace Authority

/-- An authority as it is written. -/
def text (a : Authority) : Text :=
  (match a.credentials with | none => [] | some c => c.text) ++ a.host.text
    ++ match a.portNumber with | none => [] | some n => ':' :: Text.decimal n

/-- The authority without credentials, if a request can carry these apart. -/
def withoutCredentials (a : Authority) : Authority :=
  if a.credentials.any Credentials.canBeSent then { a with credentials := none } else a

/-! ## Reading -/

/-- What stands before the last `@`, if there is one, and what follows it. -/
def cutUser (t : Text) : Option Text × Text :=
  let place := (t.reverse.takeWhile (· != '@')).reverse
  if t.contains '@' then (some (t.take (t.length - place.length - 1)), place) else (none, place)

/-- The host and what follows it, both raw: a text cut at its first colon outside brackets. -/
def cutHost (inBrackets : Bool) : Text → Text × Option Text
  | [] => ([], none)
  | c :: rest =>
    if c == ':' && !inBrackets then ([], some rest)
    else
      let inside := if c == '[' then true else if c == ']' then false else inBrackets
      let (host, behind) := cutHost inside rest
      (c :: host, behind)

/-- Reads the number after a host. The usual one of the scheme, and none at all, are left out. -/
def portNumber? (scheme : Text) (digits : Text) : Option (Option Nat) :=
  if digits.isEmpty then some none
  else
    match Host.digitsValue? 10 digits with
    | none => none
    | some n =>
      if 65535 < n then none else if usualPort? scheme = some n then some none else some (some n)

/-- Reads the number after a host, and what follows it, which starts with a backslash. -/
def numberAndRest? (scheme : Text) (t : Text) : Option (Option Nat × Text) :=
  let rest := t.dropWhile Char.isDigit
  if rest.isEmpty || rest.head? == some '\\' then
    (portNumber? scheme (t.takeWhile Char.isDigit)).map fun n => (n, rest)
  else none

/-- Reads a host that is not empty. -/
def host? (scheme : Text) (t : Text) : Option Host :=
  if isSpecial scheme then Host.parseSpecial? t else Host.parseOpaque? t

/-- Reads an authority and what is left of its text for the path. `atEnd` says that the URL ends
with it. A host may be empty only if the scheme is not special, nothing is said before it and no
number follows it. -/
def parse? (scheme : Text) (atEnd : Bool) (t : Text) : Option (Authority × Text) :=
  let (user, place) := cutUser t
  let credentials := user.bind Credentials.of?
  let (rawHost, behind) := cutHost false place
  if rawHost.isEmpty then
    let cutShort := user == some [] && !atEnd
    if isSpecial scheme || credentials.isSome || behind.isSome || cutShort then none
    else some (⟨none, .name [], none⟩, [])
  else
    match host? scheme rawHost, numberAndRest? scheme (behind.getD []) with
    | some host, some (number, rest) => some (⟨credentials, host, number⟩, rest)
    | _, _ => none

end Authority

end SqlStates.Url
