/-
A network of servers, and what asking it for a URL comes to.

A server answers each path from a table, or hangs up. Asking follows redirects,
ten at most: every answer with a redirect status and a usable location leads to
another request, for the URL that the location means at the URL just asked for. The
walk is bounded by the number of redirects left, so tables that lead in circles
are no obstacle.
-/
import SqlStates.Decoder
import SqlStates.Url

set_option autoImplicit false

namespace SqlStates

open Url (Host)

/-! ## Answers -/

/-- An answer of a server. -/
structure Answer where
  /-- The status, which is a final one. -/
  status : Nat
  /-- Where to look instead, if the answer says so. -/
  location : Option Text
  /-- The type of the body, if the answer says so. -/
  contentType : Option Text
  /-- The bytes that were sent after the head. -/
  body : Bytes
  /-- The number of bytes announced beyond the body and never sent. -/
  missing : Nat

namespace Answer

/-- The answer to a path that a server has nothing at. -/
def notFound : Answer := ⟨404, none, none, [], 0⟩

/-- Whether the status says that the body is what was asked for. -/
def isSuccess (a : Answer) : Bool := 200 ≤ a.status && a.status ≤ 299

/-- The status that says there is no body. -/
def noContent : Nat := 204

/-- The bytes that are read as the body: none if the status says so, whatever was sent. -/
def content (a : Answer) : Bytes := if a.status = noContent then [] else a.body

/-- Whether all of the body arrived. -/
def isComplete (a : Answer) : Bool := a.status = noContent || a.missing = 0

/-- The statuses that send the asker to another place. -/
def redirectStatuses : List Nat := [301, 302, 303, 307, 308]

/-- The URL to ask for next, after this answer to a request for `asked`. -/
def redirect? (a : Answer) (asked : Url) : Option Url :=
  if redirectStatuses.contains a.status then a.location.bind asked.join? else none

end Answer

/-! ## Servers -/

/-- What a server does when asked for a path. -/
inductive Reply where
  | answer (answer : Answer)
  /-- It closes the connection without an answer. -/
  | hangUp

/-- A server at a host, listening at a numbered place, with a table of what it has at which
path. -/
structure Server where
  host : Host
  portNumber : Nat
  routes : List (Text × Reply)

/-- What a server does when asked for a path, the query being part of it. -/
def Server.reply (s : Server) (target : Text) : Reply :=
  (s.routes.lookup target).getD (.answer .notFound)

/-- The servers that can be reached, and how their answers are read. -/
structure Network where
  servers : List Server
  decoder : Decoder

/-- A request that reached a server. -/
structure Request where
  url : Url

namespace Request

/-- Every request asks for content. -/
def method : Text := "GET".toList

/-- Every request names the program. -/
def userAgent : Text := "errcodes/0.1.0".toList

/-- The path asked for, with the query and without the fragment. -/
def path (r : Request) : Text := r.url.target

end Request

/-! ## Asking -/

/-- How a chain of requests ends. -/
inductive Ending where
  /-- No answer came from a URL: its server could not be reached, or hung up. -/
  | unanswered (url : Url)
  /-- The answer from a URL redirects, and no redirect is left. -/
  | tooManyRedirects (url : Url)
  /-- An answer that does not redirect. -/
  | answered (answer : Answer)

/-- A chain of requests: those that reached a server, in order, and how it ends. -/
structure Exchange where
  requests : List Request
  ending : Ending

namespace Network

/-- The number of redirects that are followed. -/
def maxRedirects : Nat := 10

/-- The server that a URL names, if it can be reached. -/
def server? (net : Network) (u : Url) : Option Server :=
  if u.scheme = "http".toList then
    net.servers.find? fun s => u.host == some s.host && u.portNumber.getD 80 == s.portNumber
  else none

/-- What the server of a URL does when asked for it, if it can be reached. -/
def reply? (net : Network) (u : Url) : Option Reply :=
  (net.server? u).map fun s => s.reply u.target

/-- Asks for a URL, with a number of redirects left to follow. -/
def follow (net : Network) : Nat → Url → Exchange
  | left, u =>
    match net.reply? u with
    | none => ⟨[], .unanswered u⟩
    | some .hangUp => ⟨[⟨u⟩], .unanswered u⟩
    | some (.answer a) =>
      match a.redirect? u, left with
      | none, _ => ⟨[⟨u⟩], .answered a⟩
      | some _, 0 => ⟨[⟨u⟩], .tooManyRedirects u⟩
      | some next, less + 1 =>
        let further := follow net less next
        ⟨⟨u⟩ :: further.requests, further.ending⟩

/-- Asks for a URL. -/
def get (net : Network) (u : Url) : Exchange := net.follow maxRedirects u

end Network

end SqlStates
