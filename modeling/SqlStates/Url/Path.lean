/-
Paths of URLs: segments between slashes.

A segment that stands for its directory is left out, and one that stands for the
directory above takes the segment before it away. The letter of a drive stays, under
every scheme: no way leads above it.
-/
import SqlStates.Url.Escape
import SqlStates.Url.Scheme

set_option autoImplicit false

namespace SqlStates.Url

/-! ## Kinds of segments -/

/-- Whether a segment stands for its directory. -/
def isDot (segment : Text) : Bool :=
  let s := Text.asciiLower segment
  s = ".".toList || s = "%2e".toList

/-- Whether a segment stands for the directory above. -/
def isDoubleDot (segment : Text) : Bool :=
  let s := Text.asciiLower segment
  s = "..".toList || s = ".%2e".toList || s = "%2e.".toList || s = "%2e%2e".toList

/-- Whether a character may follow the letter of a drive. -/
def isDriveSign (c : Char) : Bool := c == ':' || c == '|'

/-- Whether a segment is the letter of a drive, as in `c:` or `c|`. -/
def isDrive (segment : Text) : Bool :=
  match segment with
  | [c, sign] => c.isAlpha && isDriveSign sign
  | _ => false

/-- Whether a segment is the letter of a drive, or starts with one and a backslash after it. -/
def isRoot (segment : Text) : Bool :=
  match segment with
  | c :: sign :: '\\' :: _ => c.isAlpha && isDriveSign sign
  | _ => isDrive segment

/-! ## Segments -/

/-- The segments of the directory above. -/
def shorten (done : List Text) : List Text :=
  if done.getLast?.any isRoot then done else done.dropLast

/-- The segment as it is kept after the segments `done`: the letter of a drive that a path of a
file starts with is followed by a colon. -/
def segmentText (file : Bool) (done : List Text) (segment : Text) : Text :=
  match done, segment with
  | [], [c, _] => if file && isDrive segment then [c, ':'] else escape pathSet segment
  | _, _ => escape pathSet segment

/-- Adds raw segments to the segments `done`, following those that stand for directories. A path
that ends in one of these ends in an empty segment. -/
def addSegments (file : Bool) (done : List Text) : List Text → List Text
  | [] => done
  | segment :: rest =>
    if isDoubleDot segment then
      match rest with
      | [] => shorten done ++ [[]]
      | _ => addSegments file (shorten done) rest
    else if isDot segment then
      match rest with
      | [] => done ++ [[]]
      | _ => addSegments file done rest
    else addSegments file (done ++ [segmentText file done segment]) rest

/-- Adds the segments of a text to the segments `done`. -/
def addPath (scheme : Text) (done : List Text) (t : Text) : List Text :=
  addSegments (isFile scheme) done (t.splitOnP (isSlash (isSpecial scheme)))

/-- The path that follows a host: with a special scheme it has a segment even if it is empty. -/
def pathAfterHost (scheme : Text) (t : Text) : List Text :=
  match t with
  | [] => if isSpecial scheme then [[]] else []
  | c :: rest =>
    if isSlash (isSpecial scheme) c then addPath scheme [] rest else addPath scheme [] (c :: rest)

/-- The path of a file, which starts with no empty segment unless it has no other. -/
def filePath (list : List Text) : List Text :=
  match list.dropWhile List.isEmpty with
  | [] => [[]]
  | rest => rest

end SqlStates.Url
