/-
The executable: the program on the files and streams of the system.

Everything is decided elsewhere; what is left here is to read a file, to write
one, and to print. The executable has no connection to a network, so for it no
URL is ever answered.
-/
import SqlStates.Help
import SqlStates.Host

set_option autoImplicit false

namespace SqlStates.Executable

/-- The number by which the system names an error. -/
def systemCode : IO.Error → Nat
  | .noFileOrDirectory _ code _ => code.toNat
  | .inappropriateType _ code _ => code.toNat
  | .invalidArgument _ code _ => code.toNat
  | .resourceExhausted _ code _ => code.toNat
  | .otherError code _ => code.toNat
  | _ => 0

/-- The fault that a number of the system stands for. Some operations negate their numbers. -/
def faultOfCode? (code : Nat) : Option FileError :=
  match if code < 0x80000000 then code else 0x100000000 - code with
  | 2 => some .missing
  | 20 => some .notDirectory
  | 21 => some .isDirectory
  | 22 => some .nulInName
  | 28 => some .noSpace
  | 36 => some .nameTooLong
  | _ => none

/-- Runs an action on files; a fault it knows is its result, and any other stays an error. -/
def attempt {α : Type} (action : IO α) : IO (Except FileError α) := do
  try
    return .ok (← action)
  catch e =>
    match faultOfCode? (systemCode e) with
    | some fault => return .error fault
    | none => throw e

/-- Replaces the content of a file. -/
def writeFile (path : Text) (content : Bytes) : IO Unit := do
  let handle ← IO.FS.Handle.mk (String.ofList path) .write
  handle.write ⟨content.toArray⟩
  handle.flush

/-- Prints bytes. -/
def printBytes (content : Bytes) : IO Unit := do
  let stdout ← IO.getStdout
  stdout.write ⟨content.toArray⟩
  stdout.flush

/-- Prints lines on standard error. -/
def printLines (lines : List Text) : IO Unit :=
  lines.forM fun line => IO.eprintln (String.ofList line)

/-- The variables of the environment that the program looks at. -/
def settings : IO (List (Text × Text)) := do
  let found ← [urlVariable, filterVariable].mapM fun name => do
    return (← IO.getEnv (String.ofList name)).map fun value => (name, value.toList)
  return found.filterMap id

instance : Host IO where
  environment := settings
  readBytes path := attempt do
    let content ← IO.FS.readBinFile (String.ofList path)
    return content.toList
  fetchUrl asked := return Source.fetchUrl ⟨[], .utf8⟩ asked
  writeBytes path content := attempt (writeFile path content)
  print content := attempt (printBytes content)
  printHelp := do
    let _ ← attempt (printBytes (Utf8.encode helpText))
  complain := printLines
  complainUsage := printLines [usageText]

end SqlStates.Executable

def main (arguments : List String) : IO UInt32 := do
  let exit ← SqlStates.Host.run (arguments.map String.toList)
  return UInt32.ofNat exit.toNat
