/-
Catalogs of SQLSTATE entries.

A catalog is read from a text line by line. Blank lines, comments and section
headings say nothing; every other line has to be a data line, and the first that
is not ends the reading. Of several data lines with one code the first counts:
the others are left out, counted, and told of as repeats. Entries keep the order
in which their codes first appeared.
-/
import SqlStates.Entry
import SqlStates.OrderedMap
import SqlStates.Text.Lines

set_option autoImplicit false

namespace SqlStates

/-! ## Collecting entries -/

/-- A data line left out because its code had an entry already. -/
structure Repeat where
  state : SqlState
  /-- The name the code's entry has. -/
  kept : Text
  /-- The name on the line left out. -/
  skipped : Text
  deriving DecidableEq

/-- Entries under their numbers, in order of first appearance, and the number of data lines left
out as repeats. -/
@[ext] structure Catalog where
  filed : OrderedMap Nat Entry
  duplicates : Nat
  /-- Every entry is filed under its own number. -/
  filed_by_key : ∀ p ∈ filed.pairs, p.1 = p.2.key

namespace Catalog

/-- The catalog with nothing in it. -/
def empty : Catalog := ⟨.empty, 0, by simp [OrderedMap.empty]⟩

/-- The entries with the numbers they are filed under, in order. -/
def iter (c : Catalog) : List (Nat × Entry) := c.filed.pairs

/-- The entries in order. -/
def entries (c : Catalog) : List Entry := c.iter.map Prod.snd

/-- The number of entries. -/
def size (c : Catalog) : Nat := c.filed.size

/-- Whether there is no entry. -/
def isEmpty (c : Catalog) : Bool := c.filed.isEmpty

/-- The entry filed under a number. -/
def get? (c : Catalog) (key : Nat) : Option Entry := c.filed.get? key

/-- Adds an entry at the end, or counts it as a repeat if its code has one. -/
def insert (c : Catalog) (e : Entry) : Catalog :=
  match h : c.filed.get? e.key with
  | some _ => { c with duplicates := c.duplicates + 1 }
  | none =>
    { c with
      filed := c.filed.add e.key e h
      filed_by_key := by
        intro p hp
        -- the pair was there before, or it is the one just made
        rcases List.mem_append.mp hp with hold | hnew
        · exact c.filed_by_key p hold
        · rw [List.mem_singleton.mp hnew] }

/-- What adding an entry leaves out, if anything. -/
def repeat? (c : Catalog) (e : Entry) : Option Repeat :=
  (c.get? e.key).map fun kept => ⟨e.state, kept.name, e.name⟩

/-! ### What adding an entry changes -/

/-- Under a number that is taken, only the count of repeats changes. -/
theorem insert_of_isSome {c : Catalog} {e : Entry} (h : (c.get? e.key).isSome) :
    c.insert e = { c with duplicates := c.duplicates + 1 } := by
  unfold insert
  split
  · rfl
  · next hnone => simp [get?, hnone] at h

/-- Under a new number the entry is added at the end. -/
theorem iter_insert_of_none {c : Catalog} {e : Entry} (h : c.get? e.key = none) :
    (c.insert e).iter = c.iter ++ [(e.key, e)] := by
  unfold insert
  split
  · next kept hsome => simp [get?, hsome] at h
  · rfl

/-- Under a new number no repeat is counted. -/
theorem duplicates_insert_of_none {c : Catalog} {e : Entry} (h : c.get? e.key = none) :
    (c.insert e).duplicates = c.duplicates := by
  unfold insert
  split
  · next kept hsome => simp [get?, hsome] at h
  · rfl

/-- An added entry is found under its number unless another was there before. -/
theorem get?_insert (c : Catalog) (e : Entry) (key : Nat) :
    (c.insert e).get? key = (c.get? key).or (if key == e.key then some e else none) := by
  cases h : c.get? e.key with
  | none =>
    unfold insert
    split
    · next kept hsome => simp [get?, hsome] at h
    · exact OrderedMap.get?_add c.filed e.key e h key
  | some kept =>
    rw [insert_of_isSome (by rw [h]; rfl)]
    by_cases hkey : key = e.key
    · subst hkey
      show c.get? e.key = _
      rw [h]
      rfl
    · rw [if_neg (by simpa using hkey), Option.or_none]
      rfl

/-- An added entry is an entry or a repeat, never both and never neither. -/
theorem size_add_duplicates_insert (c : Catalog) (e : Entry) :
    (c.insert e).size + (c.insert e).duplicates = c.size + c.duplicates + 1 := by
  cases h : c.get? e.key with
  | none =>
    have hsize : (c.insert e).size = c.size + 1 := by
      show (c.insert e).iter.length = c.iter.length + 1
      rw [iter_insert_of_none h, List.length_append, List.length_singleton]
    rw [hsize, duplicates_insert_of_none h]
    omega
  | some kept =>
    rw [insert_of_isSome (by rw [h]; rfl)]
    show c.size + (c.duplicates + 1) = c.size + c.duplicates + 1
    omega

end Catalog

/-! ## Reading a text -/

/-- The first line of a text that ought to be a data line and is none. -/
structure FormatError where
  /-- The number of the line, counted from 1. -/
  line : Nat
  /-- The line without the blanks around it. -/
  text : Text
  fault : LineFault
  deriving DecidableEq

/-- The error of a malformed line. -/
def FormatError.toError (e : FormatError) : Error := .line e.line e.text e.fault.toError

/-- The report of a malformed line. -/
def FormatError.message (e : FormatError) : Text := e.toError.message

/-- What came of reading a text: the catalog of the lines before the first malformed one, the
repeats among them, and what is wrong with that one, if there is one. -/
structure Reading where
  catalog : Catalog
  repeats : List Repeat
  failure : Option FormatError

/-- The reading with something left out before all that was. -/
def Reading.after (r : Reading) (dropped : Option Repeat) : Reading :=
  { r with repeats := dropped.toList ++ r.repeats }

namespace Catalog

/-- Whether a trimmed line is to be passed over: an empty one, a comment, a section heading. -/
def isSkipped (line : Text) : Bool :=
  line.isEmpty || ['#'].isPrefixOf line
    || ['S', 'e', 'c', 't', 'i', 'o', 'n', ':'].isPrefixOf line

/-- The entry on the line with a number; none on a line that is passed over. -/
def readLine (number : Nat) (raw : Text) : Except FormatError (Option Entry) :=
  let line := Text.trim raw
  if isSkipped line then .ok none
  else
    match Entry.parse line with
    | .error fault => .error ⟨number, line, fault⟩
    | .ok entry => .ok (some entry)

/-- Reads lines into a catalog, the first of them having a number, up to the first malformed
one. -/
def readLines (c : Catalog) (number : Nat) : List Text → Reading
  | [] => ⟨c, [], none⟩
  | raw :: rest =>
    match readLine number raw with
    | .error e => ⟨c, [], some e⟩
    | .ok none => readLines c (number + 1) rest
    | .ok (some entry) =>
      (readLines (c.insert entry) (number + 1) rest).after (c.repeat? entry)

/-- Reads a text as far as it is well formed. -/
def read (text : Text) : Reading := readLines empty 1 (Text.lines text)

/-- The catalog a text holds, or its first malformed line. -/
def parse (text : Text) : Except FormatError Catalog :=
  match (read text).failure with
  | some error => .error error
  | none => .ok (read text).catalog

end Catalog

end SqlStates
