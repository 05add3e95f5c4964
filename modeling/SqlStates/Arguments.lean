/-
The command line.

A command line names a mode. Options may stand before that name, after it, or on
both sides, where the one after it counts; on one side each may stand once. A
value follows its option as the next argument or is attached to it. An option's
value is judged when the next option is met or when its side ends, and what stands
before the mode is judged last; a request for help or for the version that is met
before anything has been found wrong is granted.
-/
import SqlStates.Mode

set_option autoImplicit false

namespace SqlStates

/-! ## Options -/

/-- An option that takes a value. -/
inductive ValueOption where
  | url
  | file
  | output
  | timeout
  deriving DecidableEq

/-- What the options on one side of the mode say. -/
structure Settings where
  url : Option Text
  file : Option Text
  output : Option Text
  timeout : Option Nat
  verbose : Bool
  deriving DecidableEq

/-- Why reading a command line stops before its end. -/
inductive Stop where
  | usage
  | help
  | version
  deriving DecidableEq

/-- The option with a name. -/
def ValueOption.ofName? (name : Text) : Option ValueOption :=
  if name = "url".toList then some .url
  else if name = "file".toList then some .file
  else if name = "output".toList then some .output
  else if name = "timeout".toList then some .timeout
  else none

/-- The most seconds that can be asked for: the greatest number of 64 bits. -/
def maxSeconds : Nat := 18446744073709551615

/-- A number of seconds: decimal digits, after a plus sign or not. -/
def seconds? (t : Text) : Option Nat :=
  let digits := if t.head? = some '+' then t.tail else t
  if digits.isEmpty || !digits.all Char.isDigit then none
  else
    let n := digits.foldl (fun total c => total * 10 + (c.toNat - 48)) 0
    if n ≤ maxSeconds then some n else none

namespace Settings

/-- No option given. -/
def blank : Settings := ⟨none, none, none, none, false⟩

/-- The settings with a value for an option, unless it has one or the value will not do: a path
has at least one character, a timeout is a number of seconds. -/
def record (s : Settings) (o : ValueOption) (value : Text) : Except Stop Settings :=
  match o with
  | .url => if s.url.isSome then .error .usage else .ok { s with url := some value }
  | .file =>
    if s.file.isSome || value.isEmpty then .error .usage else .ok { s with file := some value }
  | .output =>
    if s.output.isSome || value.isEmpty then .error .usage else .ok { s with output := some value }
  | .timeout =>
    match s.timeout, seconds? value with
    | none, some n => .ok { s with timeout := some n }
    | _, _ => .error .usage

/-- The settings with details asked for, unless they were. -/
def askDetails (s : Settings) : Except Stop Settings :=
  if s.verbose then .error .usage else .ok { s with verbose := true }

end Settings

/-! ## Arguments one by one -/

/-- The forms an argument can have. -/
inductive Argument where
  /-- Two hyphens and nothing else. -/
  | separator
  /-- Two hyphens and a name, with what follows an equals sign if there is one. -/
  | long (name : Text) (attached : Option Text)
  /-- One hyphen and at least one letter. -/
  | short (letters : Text)
  | word (text : Text)

/-- The form of an argument. A hyphen alone is a word. -/
def Argument.of (t : Text) : Argument :=
  match t with
  | ['-', '-'] => .separator
  | '-' :: '-' :: rest =>
    .long (rest.takeWhile (· != '='))
      (match rest.dropWhile (· != '=') with | [] => none | _ :: value => some value)
  | '-' :: c :: rest => .short (c :: rest)
  | t => .word t

/-- The option at hand, whose value has not been judged yet. -/
inductive Pending where
  | nothing
  | awaiting (option : ValueOption)
  | holding (option : ValueOption) (value : Text)
  deriving DecidableEq

/-- One side of the mode as far as it has been read. -/
structure Side where
  settings : Settings
  pending : Pending

namespace Side

/-- A side before its first argument. -/
def start : Side := ⟨.blank, .nothing⟩

/-- A side with settled settings. -/
def settled (settings : Settings) : Side := ⟨settings, .nothing⟩

/-- Whether the next argument has to be a value. -/
def isAwaiting (s : Side) : Bool :=
  match s.pending with
  | .awaiting _ => true
  | _ => false

/-- The settings once the option at hand is judged. -/
def settle (s : Side) : Except Stop Settings :=
  match s.pending with
  | .nothing => .ok s.settings
  | .awaiting _ => .error .usage
  | .holding o value => s.settings.record o value

/-- Meets an option: with a value attached it is judged at once, else the next argument is its
value. -/
def takeOption (s : Side) (o : ValueOption) (attached : Option Text) : Except Stop Side :=
  match s.settle with
  | .error stop => .error stop
  | .ok settings =>
    match attached with
    | none => .ok ⟨settings, .awaiting o⟩
    | some value => (settings.record o value).map settled

/-- Meets a request for details. -/
def takeDetails (s : Side) : Except Stop Side :=
  match s.settle with
  | .error stop => .error stop
  | .ok settings => settings.askDetails.map settled

/-- Meets a request for help or for the version. -/
def takeRequest (s : Side) (request : Stop) : Except Stop Side :=
  match s.settle with
  | .error stop => .error stop
  | .ok _ => .error request

/-- Meets letters after one hyphen, each an option. What follows the letter of an option with a
value is the value, less an equals sign in front. The version can be asked for where
`versioned`. -/
def takeLetters (versioned : Bool) : Side → Text → Except Stop Side
  | s, [] => .ok s
  | s, 'v' :: rest =>
    match s.takeDetails with
    | .error stop => .error stop
    | .ok t => takeLetters versioned t rest
  | s, 'h' :: _ => s.takeRequest .help
  | s, 'V' :: _ => s.takeRequest (if versioned then .version else .usage)
  | s, 'o' :: [] => s.takeOption .output none
  | s, 'o' :: '=' :: value => s.takeOption .output (some value)
  | s, 'o' :: value => s.takeOption .output (some value)
  | _, _ :: _ => .error .usage

/-- Meets a name after two hyphens. -/
def takeLong (versioned : Bool) (s : Side) (name : Text) (attached : Option Text) :
    Except Stop Side :=
  match ValueOption.ofName? name with
  | some o => s.takeOption o attached
  | none =>
    if attached.isSome then .error .usage
    else if name = "verbose".toList then s.takeDetails
    else if name = "help".toList then s.takeRequest .help
    else if name = "version".toList && versioned then s.takeRequest .version
    else .error .usage

/-- Meets a word, which can only be a value. -/
def takeWord (s : Side) (word : Text) : Except Stop Side :=
  match s.pending with
  | .awaiting o => .ok ⟨s.settings, .holding o word⟩
  | _ => .error .usage

/-- Meets an argument other than the separator. -/
def take (versioned : Bool) (s : Side) : Argument → Except Stop Side
  | .separator => .error .usage
  | .long name attached => s.takeLong versioned name attached
  | .short letters => s.takeLetters versioned letters
  | .word text => s.takeWord text

/-- Reads the arguments after the mode. A separator may stand at the end. -/
def readAfter (s : Side) : List Text → Except Stop Settings
  | [] => s.settle
  | argument :: rest =>
    match Argument.of argument with
    | .separator => if rest.isEmpty then s.settle else .error .usage
    | other =>
      match s.take false other with
      | .error stop => .error stop
      | .ok t => readAfter t rest

end Side

/-! ## The whole command line -/

/-- A command line: the mode, and what the options before and after it say. -/
structure CommandLine where
  mode : Mode
  before : Settings
  after : Settings
  deriving DecidableEq

namespace CommandLine

/-- The command that asks for help, with a mode or with its own name after it. -/
def helpName : Text := "help".toList

/-- What a request for help comes to: granted for the program and for each of its commands. -/
def helpFor : List Text → Stop
  | [] => .help
  | [name] => if name = helpName || (Mode.ofName? name).isSome then .help else .usage
  | _ => .usage

/-- Reads on from the arguments before the mode. -/
def readFrom (s : Side) : List Text → Except Stop CommandLine
  | [] => .error .usage
  | argument :: rest =>
    match if s.isAwaiting then none else Mode.ofName? argument with
    | some mode =>
      match Side.start.readAfter rest, s.settle with
      | .error stop, _ => .error stop
      | .ok _, .error stop => .error stop
      | .ok after, .ok before => .ok ⟨mode, before, after⟩
    | none =>
      if !s.isAwaiting && argument = helpName then .error (helpFor rest)
      else
        match s.take true (Argument.of argument) with
        | .error stop => .error stop
        | .ok t => readFrom t rest

/-- Reads a command line. -/
def parse (arguments : List Text) : Except Stop CommandLine := readFrom .start arguments

/-! ## What it says as a whole -/

/-- The path of the catalog, if one is given. -/
def file (c : CommandLine) : Option Text := c.after.file <|> c.before.file

/-- The URL of the catalog, if one is given. -/
def url (c : CommandLine) : Option Text := c.after.url <|> c.before.url

/-- The path of the output, if one is given. -/
def output (c : CommandLine) : Option Text := c.after.output <|> c.before.output

/-- The timeout, if one is given. -/
def timeout (c : CommandLine) : Option Nat := c.after.timeout <|> c.before.timeout

/-- Whether details are asked for. -/
def verbose (c : CommandLine) : Bool := c.after.verbose || c.before.verbose

end CommandLine

end SqlStates
