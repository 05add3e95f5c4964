/-
Sinks: where bytes are written to, with room for some number of them.

One write puts in as much as there is room for and tells how much that was. With
no room left it fails, or it puts in nothing and says so, as the sink is made.
Writing all of something repeats single writes until nothing remains; a write
that puts in nothing ends that with an error of its own. What was put in stays.
-/
import SqlStates.Text.Utf8

set_option autoImplicit false

namespace SqlStates

/-- What a sink with no room left does with a write. -/
inductive WhenFull where
  /-- The write fails. -/
  | refuse
  /-- The write succeeds with nothing put in. -/
  | takeNothing
  deriving DecidableEq

/-- Why not everything could be written. -/
inductive WriteError where
  /-- The sink refused a write. -/
  | full
  /-- The sink took nothing of what remained. -/
  | wroteZero
  deriving DecidableEq

/-- The report of a write that failed. -/
def WriteError.message : WriteError → Text
  | full => "sink is full".toList
  | wroteZero => "failed to write whole buffer".toList

/-- A sink and what has been put into it. -/
structure Sink where
  /-- The number of bytes it holds at most, if there is a limit. -/
  room : Option Nat
  whenFull : WhenFull
  held : Bytes

namespace Sink

/-- An empty sink that takes everything. -/
def unbounded : Sink := ⟨none, .refuse, []⟩

/-- How many of `n` bytes fit. -/
def fits (s : Sink) (n : Nat) : Nat :=
  match s.room with
  | none => n
  | some room => min n (room - s.held.length)

/-- The sink with as many of the bytes put in as fit. -/
def put (s : Sink) (bytes : Bytes) : Sink :=
  { s with held := s.held ++ bytes.take (s.fits bytes.length) }

/-- One write: the sink afterwards and the number of bytes put in. -/
def write (s : Sink) (bytes : Bytes) : Sink × Except WriteError Nat :=
  if s.fits bytes.length = 0 then
    match s.whenFull with
    | .refuse => (s, .error .full)
    | .takeNothing => (s, .ok 0)
  else (s.put bytes, .ok (s.fits bytes.length))

/-- Writes until nothing remains, in at most `tries` single writes. -/
def writeWithin : Nat → Sink → Bytes → Sink × Except WriteError Unit
  | _, s, [] => (s, .ok ())
  | 0, s, _ :: _ => (s, .error .wroteZero)
  | tries + 1, s, bytes =>
    match s.write bytes with
    | (after, .error e) => (after, .error e)
    | (after, .ok 0) => (after, .error .wroteZero)
    | (after, .ok n) => writeWithin tries after (bytes.drop n)

/-- Writes all of some bytes. Every write but the last puts at least one in, so there are never
more writes than bytes. -/
def writeAll (s : Sink) (bytes : Bytes) : Sink × Except WriteError Unit :=
  writeWithin bytes.length s bytes

/-- Writes texts one after the other, each with a line feed after it, until one write fails. -/
def writeLines (s : Sink) : List Text → Sink × Except WriteError Unit
  | [] => (s, .ok ())
  | line :: rest =>
    match s.writeAll (Utf8.encode line) with
    | (after, .error e) => (after, .error e)
    | (after, .ok ()) =>
      match after.writeAll (Utf8.encode ['\n']) with
      | (ended, .error e) => (ended, .error e)
      | (ended, .ok ()) => writeLines ended rest

end Sink

end SqlStates
