/-
Sources of catalogs: a file, or a URL.

Fetching a source ends in a text or in a fetch error, which always names the path
or the URL that was asked for, wherever redirects have led. On the way it makes
notices and sends requests.
-/
import SqlStates.Files
import SqlStates.Network
import SqlStates.Notice

set_option autoImplicit false

namespace SqlStates

/-! ## Fetch errors -/

/-- Why asking for a URL came to nothing, other than by a status. -/
inductive HttpFault where
  /-- The text is no URL. -/
  | notUrl
  /-- The URL cannot be asked for over HTTP. -/
  | notHttp (url : Url)
  /-- No answer came from the URL. -/
  | unanswered (url : Url)
  /-- The answer from the URL redirects once too often. -/
  | tooManyRedirects (url : Url)
  /-- The body broke off. -/
  | bodyBrokeOff
  deriving DecidableEq

/-- The report of a failed request, to follow the URL that was asked for. -/
def HttpFault.message : HttpFault → Text
  | notUrl => "builder error".toList
  | notHttp url => "builder error for url (".toList ++ url.text ++ [')']
  | unanswered url => "error sending request for url (".toList ++ url.text ++ [')']
  | tooManyRedirects url => "error following redirect for url (".toList ++ url.text ++ [')']
  | bodyBrokeOff => "error decoding response body".toList

/-- Why a source could not be fetched. -/
inductive FetchError where
  /-- The server answered with a status that is no success. -/
  | status (url : Text) (status : Nat)
  /-- There was no whole answer. -/
  | http (url : Text) (fault : HttpFault)
  /-- The file could not be read. -/
  | read (path : Text) (fault : FileError)
  deriving DecidableEq

/-- The report of a source that could not be fetched. -/
def FetchError.message : FetchError → Text
  | status url code =>
    "could not fetch ".toList ++ url ++ ": server answered ".toList ++ Text.decimal code
  | http url fault => "could not fetch ".toList ++ url ++ ": ".toList ++ fault.message
  | read path fault => "could not read ".toList ++ path ++ ": ".toList ++ fault.message

/-! ## Sources -/

/-- Where a catalog comes from. -/
inductive Source where
  | url (url : Text)
  | file (path : Text)
  deriving DecidableEq

/-- What came of fetching a source. -/
structure Fetched where
  notices : List Notice
  requests : List Request
  result : Except FetchError Text

namespace Source

/-- Where the catalog is published. -/
def published : Source :=
  .url ("https://raw.githubusercontent.com/postgres/postgres/master/src/backend/utils/"
    ++ "errcodes.txt").toList

/-- The source for a path and a URL, either of which may be missing: the path goes first, and
with neither the catalog is taken from where it is published. -/
def choose (path url : Option Text) : Source :=
  match path, url with
  | some p, _ => .file p
  | none, some u => .url u
  | none, none => published

/-- The source as it is written. -/
def text : Source → Text
  | url u => u
  | file p => p

/-- What comes of reading a file. -/
def ofFile (path : Text) (read : Except FileError Text) : Fetched :=
  ⟨[.reading path], [], read.mapError (FetchError.read path)⟩

/-- Fetches a file. -/
def fetchFile (files : FileTree) (path : Text) : Fetched := ofFile path (files.readText path)

theorem result_fetchFile_of_ok {files : FileTree} {path text : Text}
    (h : files.readText path = .ok text) : (fetchFile files path).result = .ok text := by
  rw [fetchFile, ofFile, h]
  rfl

theorem result_fetchFile_of_error {files : FileTree} {path : Text} {fault : FileError}
    (h : files.readText path = .error fault) :
    (fetchFile files path).result = .error (.read path fault) := by
  rw [fetchFile, ofFile, h]
  rfl

/-- What the end of a chain of requests for a URL comes to. The status is judged before the
body. -/
def ofEnding (decoder : Decoder) (asked : Text) : Ending → Except FetchError Text
  | .unanswered u => .error (.http asked (.unanswered u))
  | .tooManyRedirects u => .error (.http asked (.tooManyRedirects u))
  | .answered a =>
    if !a.isSuccess then .error (.status asked a.status)
    else if !a.isComplete then .error (.http asked .bodyBrokeOff)
    else .ok (decoder.decode a.contentType a.content)

/-- The notice of a text that arrived. -/
def arrival : Except FetchError Text → List Notice
  | .error _ => []
  | .ok text => [.fetched (Utf8.encode text).length]

/-- Fetches a URL. -/
def fetchUrl (net : Network) (asked : Text) : Fetched :=
  match Url.parse? asked with
  | none => ⟨[.fetching asked], [], .error (.http asked .notUrl)⟩
  | some written =>
    let u := written.withoutCredentials
    if !u.isRequestable then ⟨[.fetching asked], [], .error (.http asked (.notHttp u))⟩
    else
      let exchange := net.get u
      let result := ofEnding net.decoder asked exchange.ending
      ⟨.fetching asked :: arrival result, exchange.requests, result⟩

/-- Fetches a source. -/
def fetch (files : FileTree) (net : Network) : Source → Fetched
  | file path => fetchFile files path
  | url asked => fetchUrl net asked

end Source

end SqlStates
