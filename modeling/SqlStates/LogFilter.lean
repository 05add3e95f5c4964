/-
Filters for notices.

A filter is a list of directives. Of the directives that cover a notice the most
specific decides, and of two that are equally specific the later; a notice that none
covers is not shown. Written down, directives are separated by commas.
-/
import SqlStates.LogFilter.Directive

set_option autoImplicit false

namespace SqlStates

/-- What is shown of every notice. -/
structure LogFilter where
  directives : List Directive
  deriving DecidableEq

namespace LogFilter

/-- The filter that shows every notice down to a level. -/
def atLevel (level : Level) : LogFilter := ⟨[⟨none, none, none, some level⟩]⟩

/-- Reads a filter. Empty directives are passed over; with none at all errors are shown. -/
def parse? (t : Text) : Option LogFilter :=
  match (t.splitOn ',').filter fun piece => !piece.isEmpty with
  | [] => some (atLevel .error)
  | pieces => (pieces.mapM Directive.parse?).map LogFilter.mk

/-- The directive that decides on a notice. -/
def deciding? (f : LogFilter) (n : Notice) : Option Directive :=
  (f.directives.filter fun d => d.covers n).foldl
    (fun best d =>
      match best with
      | none => some d
      | some b => if b.givesWay d then some d else some b)
    none

/-- Whether a notice is shown. -/
def shows (f : LogFilter) (n : Notice) : Bool :=
  match f.deciding? n with
  | none => false
  | some d => d.shows n.level

/-- The filter in force: the one written in the environment if there is a readable one, else
debug notices and above when details are asked for, and warnings and above when not. -/
def inForce (written : Option Text) (details : Bool) : LogFilter :=
  (written.bind parse?).getD (atLevel (if details then .debug else .warn))

end LogFilter

end SqlStates
