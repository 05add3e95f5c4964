/-
A tree of files, and what reading and writing do to it.

A path is walked name by name from the root or from the working directory, and
every name but the last has to lead to a directory. The walk ends at a node or at
a free name in a directory. Reading wants a file at the end; writing wants a file
or a free name and changes nothing else. Which of several faults is reported is a
matter of what the walk meets first.
-/
import SqlStates.Text.Utf8

set_option autoImplicit false

namespace SqlStates

/-- A path from the root: the names on the way. -/
abbrev Path := List Text

/-- What can be found at a path. -/
inductive Node where
  | file (content : Bytes)
  | directory
  /-- A device that swallows what is written to it. -/
  | nullDevice
  /-- A device with no space for a single byte. What is read from it has no end. -/
  | fullDevice
  deriving DecidableEq

/-- Why a path could not be read or written. -/
inductive FileError where
  | missing
  | isDirectory
  | notDirectory
  | nameTooLong
  | noSpace
  /-- The content has no end, and all of it was asked for. -/
  | outOfMemory
  /-- The content is no text. -/
  | notUtf8
  /-- The path holds a NUL, which no name can. -/
  | nulInName
  deriving DecidableEq

/-- The report of a file that could not be read or written. -/
def FileError.message : FileError → Text
  | missing => "No such file or directory (os error 2)".toList
  | isDirectory => "Is a directory (os error 21)".toList
  | notDirectory => "Not a directory (os error 20)".toList
  | nameTooLong => "File name too long (os error 36)".toList
  | noSpace => "No space left on device (os error 28)".toList
  | outOfMemory => "out of memory".toList
  | notUtf8 => "stream did not contain valid UTF-8".toList
  | nulInName => "file name contained an unexpected NUL byte".toList

/-- A tree of files: what is at which path, and the directory that relative paths start from.
Directories on the way to a node need no mention of their own. -/
structure FileTree where
  nodes : List (Path × Node)
  workDir : Path

/-- Where a path leads. -/
inductive Place where
  /-- To a node. -/
  | taken (path : Path) (node : Node)
  /-- To a name that is free in a directory. -/
  | free (path : Path)

namespace FileTree

/-- What is at a path from the root. -/
def node? (tree : FileTree) (path : Path) : Option Node :=
  match tree.nodes.find? fun item => item.1 == path with
  | some item => some item.2
  | none =>
    if path.isPrefixOf tree.workDir || tree.nodes.any (fun item => path.isPrefixOf item.1)
    then some .directory else none

/-- The tree with a file at a path from the root, in place of what was there. -/
def put (tree : FileTree) (path : Path) (content : Bytes) : FileTree :=
  { tree with
    nodes := (tree.nodes.filter fun item => item.1 != path) ++ [(path, .file content)] }

/-! ## Walking a path -/

/-- The most bytes a name may have. -/
def maxName : Nat := 255

/-- The most bytes a path may have. -/
def maxPath : Nat := 4095

/-- Walks the names that remain from a directory on. -/
def walk (tree : FileTree) (here : Path) : List Text → Except FileError Place
  | [] =>
    match tree.node? here with
    | none => .error .missing
    | some node => .ok (.taken here node)
  | name :: rest =>
    match tree.node? here with
    | none => .error .missing
    | some .directory =>
      if name = ['.'] then walk tree here rest
      else if name = ['.', '.'] then walk tree here.dropLast rest
      else if maxName < (Utf8.encode name).length then .error .nameTooLong
      else
        match tree.node? (here ++ [name]), rest with
        | none, [] => .ok (.free (here ++ [name]))
        | none, _ :: _ => .error .missing
        | some _, _ => walk tree (here ++ [name]) rest
    | some _ => .error .notDirectory

/-- Where the walk along a path starts. -/
def start (tree : FileTree) (path : Text) : Path :=
  if path.head? = some '/' then [] else tree.workDir

/-- The names of a path. -/
def names (path : Text) : List Text := (path.splitOn '/').filter fun name => !name.isEmpty

/-- Whether a path ends in a slash, and so asks for a directory. -/
def asksDirectory (path : Text) : Bool := path.getLast? = some '/'

/-- The fault a path has whatever the tree is: a NUL in it, no character, too many bytes. -/
def pathFault? (path : Text) : Option FileError :=
  if path.contains '\x00' then some .nulInName
  else if path.isEmpty then some .missing
  else if maxPath < (Utf8.encode path).length then some .nameTooLong
  else none

/-- Where a path leads for a reader. -/
def locate (tree : FileTree) (path : Text) : Except FileError Place :=
  match pathFault? path with
  | some fault => .error fault
  | none =>
    tree.walk (tree.start path) (names path ++ if asksDirectory path then [['.']] else [])

/-- Whether a writer is turned away by the slash at the end of a path: it is, unless the last
name is one that every directory has. -/
def asksNewDirectory (path : Text) : Bool :=
  asksDirectory path &&
    match (names path).getLast? with
    | none => false
    | some name => name != ['.'] && name != ['.', '.']

/-- Where a path leads for a writer. -/
def locateForWriting (tree : FileTree) (path : Text) : Except FileError Place :=
  match pathFault? path with
  | some fault => .error fault
  | none =>
    if asksNewDirectory path then
      match tree.walk (tree.start path) ((names path).dropLast ++ [['.']]) with
      | .error fault => .error fault
      | .ok _ => .error .isDirectory
    else tree.walk (tree.start path) (names path)

/-! ## Reading and writing -/

/-- The bytes at a path. -/
def readBytes (tree : FileTree) (path : Text) : Except FileError Bytes :=
  match tree.locate path with
  | .error fault => .error fault
  | .ok (.free _) => .error .missing
  | .ok (.taken _ (.file content)) => .ok content
  | .ok (.taken _ .directory) => .error .isDirectory
  | .ok (.taken _ .nullDevice) => .ok []
  | .ok (.taken _ .fullDevice) => .error .outOfMemory

/-- The text that was read. A byte order mark is part of it. -/
def textOf : Except FileError Bytes → Except FileError Text
  | .error fault => .error fault
  | .ok content =>
    match Utf8.decode? content with
    | none => .error .notUtf8
    | some text => .ok text

/-- The text at a path. -/
def readText (tree : FileTree) (path : Text) : Except FileError Text := textOf (tree.readBytes path)

/-- The tree after bytes have been written to a path: the file there is created or replaced. -/
def write (tree : FileTree) (path : Text) (content : Bytes) : Except FileError FileTree :=
  match tree.locateForWriting path with
  | .error fault => .error fault
  | .ok (.free there) => .ok (tree.put there content)
  | .ok (.taken there (.file _)) => .ok (tree.put there content)
  | .ok (.taken _ .directory) => .error .isDirectory
  | .ok (.taken _ .nullDevice) => .ok tree
  | .ok (.taken _ .fullDevice) => if content.isEmpty then .ok tree else .error .noSpace

end FileTree

end SqlStates
