/-
URLs.

A URL is read in the lenient way of browsers and written in one normal form. A user
name and a password may stand before the host; a request carries them apart from the
URL. A reference is read against the URL it was found at.
-/
import SqlStates.Url.Authority
import SqlStates.Url.Path

set_option autoImplicit false

namespace SqlStates

open Url (Authority Host)

/-- The path of a URL: segments, or one piece of text with no structure. -/
inductive UrlPath where
  | segments (list : List Text)
  | plain (text : Text)
  deriving DecidableEq

/-- A URL in normal form. -/
structure Url where
  scheme : Text
  authority : Option Authority
  path : UrlPath
  query : Option Text
  fragment : Option Text
  deriving DecidableEq

namespace Url

/-! ## Writing -/

/-- The path as it is written, a slash before each segment. -/
def pathText (u : Url) : Text :=
  match u.path with
  | .plain t => t
  | .segments list => list.flatMap fun segment => '/' :: segment

/-- What stands between the scheme and the path. A path that starts with an empty segment would
read as a host, so one without a host is kept apart by a segment that says nothing. -/
def beforePath (u : Url) : Text :=
  match u.authority, u.path with
  | some a, _ => "//".toList ++ a.text
  | none, .segments ([] :: _ :: _) => if isFile u.scheme then "//".toList else "/.".toList
  | none, _ => if isFile u.scheme then "//".toList else []

/-- What is asked for at the host: path and query. -/
def target (u : Url) : Text :=
  u.pathText ++ match u.query with | none => [] | some q => '?' :: q

/-- A URL as it is written. -/
def text (u : Url) : Text :=
  u.scheme ++ ':' :: u.beforePath ++ u.target
    ++ match u.fragment with | none => [] | some f => '#' :: f

/-! ## Requests -/

/-- The host of a URL. -/
def host (u : Url) : Option Host := u.authority.map Authority.host

/-- The number after the host of a URL, if it is not the usual one. -/
def portNumber (u : Url) : Option Nat := u.authority.bind Authority.portNumber

/-- The URL without credentials, if a request can carry these apart. -/
def withoutCredentials (u : Url) : Url :=
  { u with authority := u.authority.map Authority.withoutCredentials }

/-- The characters that a name may hold and the host of a request may not. -/
def unsendable : Text := ['"', '\x60', '\x7B', '\x7D']

/-- The greatest number of characters of a URL that a request takes. -/
def longestSendable : Nat := 65534

/-- Whether a URL can be asked for over HTTP. -/
def isRequestable (u : Url) : Bool :=
  (u.scheme = "http".toList || u.scheme = "https".toList)
    && !u.host.any (fun h => h.text.any unsendable.contains)
    && u.text.length ≤ longestSendable

/-! ## Parts of a reference -/

/-- A text without the control characters and spaces around it, and without the tabs and line
breaks in it. -/
def clean (t : Text) : Text :=
  let outer := fun c : Char => decide (c.toNat ≤ 0x20)
  ((t.dropWhile outer).reverse.dropWhile outer).reverse.filter fun c =>
    c != '\t' && c != '\n' && c != '\r'

/-- What stands before the first `mark`, and what follows it. -/
def cutAt (mark : Char) (t : Text) : Text × Option Text :=
  match t.dropWhile (· != mark) with
  | [] => (t, none)
  | _ :: rest => (t.takeWhile (· != mark), some rest)

/-- The query of a scheme with what may not stand in it escaped. -/
def queryText (scheme : Text) (q : Text) : Text :=
  escape (if isSpecial scheme then specialQuerySet else querySet) q

/-- A reference cut into what stands before query and fragment, and these two. -/
structure Reference where
  body : Text
  query : Option Text
  fragment : Option Text

namespace Reference

/-- Cuts a text at its query and at its fragment. -/
def of (t : Text) : Reference :=
  let (front, fragment) := cutAt '#' t
  let (body, query) := cutAt '?' front
  ⟨body, query, fragment⟩

/-- Whether there is neither a query nor a fragment. -/
def isBare (r : Reference) : Bool := r.query.isNone && r.fragment.isNone

/-- The URL with an authority and a path, and the query and the fragment of the reference. -/
def url (r : Reference) (scheme : Text) (authority : Option Authority) (path : UrlPath) : Url :=
  ⟨scheme, authority, path, r.query.map (queryText scheme), r.fragment.map (escape fragmentSet)⟩

end Reference

/-! ## Reading -/

/-- Reads what follows the two slashes before a host, the text `t` of a reference. -/
def ofAuthority? (scheme : Text) (r : Reference) (t : Text) : Option Url :=
  let slash := isSlash (isSpecial scheme)
  let behind := t.dropWhile fun c => !slash c
  match Authority.parse? scheme (behind.isEmpty && r.isBare) (t.takeWhile fun c => !slash c) with
  | none => none
  | some (authority, rest) =>
    some (r.url scheme (some authority) (.segments (pathAfterHost scheme (rest ++ behind))))

/-- Reads what follows the two slashes before the host of a file. There may be no host, which is
also what `localhost` means, and the letter of a drive in its place or right after it leaves
none. -/
def ofFileHost? (scheme : Text) (r : Reference) (t : Text) : Option Url :=
  let raw := t.takeWhile fun c => !isSlash true c
  let behind := t.dropWhile fun c => !isSlash true c
  let local? := fun path => some (r.url scheme none (.segments (filePath path)))
  if raw.isEmpty || isDrive raw then local? (addPath scheme [] t)
  else
    match Host.parseSpecial? raw with
    | none => none
    | some host =>
      let path := pathAfterHost scheme behind
      if host = .name "localhost".toList then local? (addPath scheme [] behind)
      else if path.head?.any isDrive then local? path
      else some (r.url scheme (some ⟨none, host, none⟩) (.segments (filePath path)))

/-- Reads what follows the scheme of a file. -/
def ofFile? (scheme : Text) (r : Reference) : Option Url :=
  match r.body with
  | a :: b :: rest =>
    if isSlash true a && isSlash true b then ofFileHost? scheme r rest
    else some (r.url scheme none (.segments (filePath (pathAfterHost scheme (a :: b :: rest)))))
  | short => some (r.url scheme none (.segments (filePath (pathAfterHost scheme short))))

/-- Reads what follows a scheme. -/
def ofScheme? (scheme : Text) (r : Reference) : Option Url :=
  if isFile scheme then ofFile? scheme r
  else if isSpecial scheme then ofAuthority? scheme r (r.body.dropWhile (isSlash true))
  else
    match r.body with
    | '/' :: '/' :: rest => ofAuthority? scheme r rest
    | '/' :: rest => some (r.url scheme none (.segments (addPath scheme [] rest)))
    | t => some (r.url scheme none (.plain (escape [] t)))

/-- Reads a URL that stands for itself. -/
def parse? (t : Text) : Option Url :=
  match scheme? (clean t) with
  | none => none
  | some (scheme, rest) => ofScheme? scheme (Reference.of rest)

/-! ## References -/

/-- The segments of the path of a URL. -/
def segments (u : Url) : List Text :=
  match u.path with
  | .segments list => list
  | .plain _ => []

/-- The URL that a reference with no scheme means at a URL with a special scheme and a host. -/
def relative? (u : Url) (r : Reference) : Option Url :=
  let here := fun path => some (r.url u.scheme u.authority (.segments path))
  match r.body with
  | [] =>
    let query := match r.query with | none => u.query | some q => some (queryText u.scheme q)
    some { u with query := query, fragment := r.fragment.map (escape fragmentSet) }
  | c :: rest =>
    if isSlash true c then
      match rest with
      | d :: more =>
        if isSlash true d then ofAuthority? u.scheme r (more.dropWhile (isSlash true))
        else here (addPath u.scheme [] rest)
      | [] => here [[]]
    else here (addPath u.scheme u.segments.dropLast r.body)

/-- The URL that a reference means at a URL with a special scheme and a host. A reference with
the scheme of that URL and no host is read as if it had no scheme. -/
def join? (u : Url) (t : Text) : Option Url :=
  match scheme? (clean t) with
  | none => relative? u (Reference.of (clean t))
  | some (scheme, rest) =>
    let bare := match rest with
      | a :: b :: _ => !(isSlash true a && isSlash true b)
      | _ => true
    if scheme = u.scheme && bare then relative? u (Reference.of rest)
    else ofScheme? scheme (Reference.of rest)

end Url

end SqlStates
