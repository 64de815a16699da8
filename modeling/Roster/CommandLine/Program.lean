/-
Roster.CommandLine.Program — options, and the reading of a command line.

A program is described by its options.  Words are read from left to
right: an option that takes a value takes it from behind an equals sign
or from the next word, and every option may be given once.  The value of
an option is judged when the next option that the program knows is
reached, or at the end, so that of two faults the earlier one is
reported unless the later one is an argument that the program does not
know.  Options that were not given are then taken from the environment,
in the order of the description.
-/
import Roster.Text.Terminal

namespace Roster.CommandLine

/-- Why a reading stops without settings. -/
inductive Stop where
  /-- The user asks how the program is used. -/
  | help
  /-- The user asks which version it is. -/
  | version
  /-- There is an argument that the program does not know. -/
  | unknown (argument : String)
  /-- An option has a value and takes none. -/
  | unneeded (value option : String)
  /-- An option takes a value and has none. -/
  | missing (option : String)
  /-- An option is given twice. -/
  | repeated (option : String)
  /-- An option has a value that it cannot have. -/
  | invalid (value option reason : String)
  deriving DecidableEq, Repr

/-- What an option does with settings of type `S`. -/
inductive Role (S : Type) where
  /-- It changes them by being given. -/
  | switch (set : S → S)
  /-- It has a value, known by `word` and taken from the variable `source` of
  the environment if the option is not given.  `usual` is the value it has
  without both. -/
  | value (word source : String) (usual : Option String) (set : String → S → Except String S)
  /-- It ends the reading; it has a short form of one letter. -/
  | ending (letter : Char) (stop : Stop)

/-- An option. -/
structure Choice (S : Type) where
  name : String
  about : String
  role : Role S

/-- A program that is started with settings of type `S`. -/
structure Program (S : Type) where
  name : String
  version : String
  about : String
  choices : List (Choice S)
  /-- The settings when no option is given. -/
  usual : S

variable {S : Type}

namespace Choice

/-- An option as messages name it. -/
def display (c : Choice S) : String :=
  match c.role with
  | .value word _ _ _ => "--" ++ c.name ++ " <" ++ word ++ ">"
  | _ => "--" ++ c.name

end Choice

namespace Program

/-- The option of a name. -/
def find? (p : Program S) (name : String) : Option (Choice S) :=
  p.choices.find? fun c => c.name == name

/-- What the option with a short form ends the reading with. -/
def ending? (p : Program S) (letter : Char) : Option Stop :=
  p.choices.findSome? fun c =>
    match c.role with
    | .ending short stop => if short = letter then some stop else none
    | _ => none

end Program

/-! ## Words -/

/-- What a word looks like. -/
inductive Word where
  /-- Two dashes: no option follows. -/
  | close
  /-- An option, perhaps with a value. -/
  | long (name : String) (value : Option String)
  /-- Short forms of options. -/
  | short (letters : List Char)
  /-- Anything else. -/
  | plain
  deriving DecidableEq, Repr

/-- What a word looks like, by its characters. -/
def Word.ofChars : List Char → Word
  | ['-', '-'] => .close
  | '-' :: '-' :: cs =>
    match Text.splitFirst? '=' cs with
    | some (name, value) => .long (String.ofList name) (some (String.ofList value))
    | none => .long (String.ofList cs) none
  | '-' :: c :: cs => .short (c :: cs)
  | _ => .plain

/-! ## Reading -/

/-- What was read so far. -/
structure Reading (S : Type) where
  settings : S
  /-- The names of the options given. -/
  given : List String
  /-- The option whose value is still to be judged, and its value if it has
  one already. -/
  pending : Option (Choice S × Option String)
  /-- Whether two dashes were read. -/
  closed : Bool

namespace Reading

/-- Apply an option and a value to the settings. -/
def apply (r : Reading S) (c : Choice S) (value : String) : Except Stop (Reading S) :=
  match c.role with
  | .switch set => .ok { r with settings := set r.settings }
  | .value _ _ _ set =>
    match set value r.settings with
    | .ok settings => .ok { r with settings := settings }
    | .error reason => .error (.invalid value c.display reason)
  | .ending _ stop => .error stop

/-- Take an option from the command line. -/
def take (r : Reading S) (c : Choice S) (value : String) : Except Stop (Reading S) :=
  if r.given.contains c.name then .error (.repeated c.display)
  else { r with given := c.name :: r.given }.apply c value

/-- Judge the option whose value is still to be judged. -/
def settle (r : Reading S) : Except Stop (Reading S) :=
  match r.pending with
  | none => .ok r
  | some (c, none) => .error (.missing c.display)
  | some (c, some value) => { r with pending := none }.take c value

/-- Read an option, perhaps with a value behind an equals sign. -/
def readOption (r : Reading S) (c : Choice S) : Option String → Except Stop (Reading S)
  | none => do
    let r ← r.settle
    match c.role with
    | .value _ _ _ _ => .ok { r with pending := some (c, none) }
    | _ => r.take c ""
  | some value =>
    match c.role with
    | .value _ _ _ _ => do (← r.settle).take c value
    | _ => .error (.unneeded value c.display)

/-- Read the first of several short forms. -/
def readShort (p : Program S) (r : Reading S) : List Char → Except Stop (Reading S)
  | [] => .ok r
  | letter :: _ =>
    match p.ending? letter with
    | none => .error (.unknown (String.ofList ['-', letter]))
    | some stop => do
      let _ ← r.settle
      .error stop

/-- Read a word. -/
def step (p : Program S) (r : Reading S) (word : String) : Except Stop (Reading S) :=
  if r.closed then .error (.unknown word)
  else
    match Word.ofChars word.toList with
    | .close => .ok { r with closed := true }
    | .long name value =>
      match p.find? name with
      | none => .error (.unknown ("--" ++ name))
      | some c => r.readOption c value
    | .short letters => r.readShort p letters
    | .plain =>
      match r.pending with
      | some (c, none) => .ok { r with pending := some (c, some word) }
      | _ => .error (.unknown word)

/-- Take an option that was not given from the environment, if it is there. -/
def complete (environment : List (String × String)) (r : Reading S) (c : Choice S) :
    Except Stop (Reading S) :=
  if r.given.contains c.name then .ok r
  else
    match c.role with
    | .value _ source _ _ =>
      match environment.lookup source with
      | some value => r.apply c value
      | none => .ok r
    | _ => .ok r

end Reading

/-- The settings that a command line and an environment ask for. -/
def Program.read (p : Program S) (environment : List (String × String)) (words : List String) :
    Except Stop S := do
  let r ← words.foldlM (Reading.step p) ⟨p.usual, [], none, false⟩
  let r ← p.choices.foldlM (Reading.complete environment) (← r.settle)
  return r.settings

/-! ## Answers

Answers are texts for a terminal. -/

open Text.Terminal (accented)

/-- What is wrong, with a hint where to find help. -/
def complaint (fault : String) : String :=
  accented "error:" ++ " " ++ fault ++ "\n\nFor more information, try '" ++ accented "--help" ++
    "'.\n"

/-- What is wrong with a command line; nothing if it is a question. -/
def Stop.fault? : Stop → Option String
  | .help => none
  | .version => none
  | .unknown argument => some ("unexpected argument '" ++ accented argument ++ "' found")
  | .unneeded value option =>
    some ("unexpected value '" ++ accented value ++ "' for '" ++ accented option ++
      "' found; no more were expected")
  | .missing option =>
    some ("a value is required for '" ++ accented option ++ "' but none was supplied")
  | .repeated option =>
    some ("the argument '" ++ accented option ++ "' cannot be used multiple times")
  | .invalid value option reason =>
    some ("invalid value '" ++ accented value ++ "' for '" ++ accented option ++ "': " ++ reason)

namespace Choice

/-- The forms of an option, one below the other in all options. -/
def forms (c : Choice S) : String :=
  match c.role with
  | .switch _ => "      " ++ accented ("--" ++ c.name)
  | .value word _ _ _ => "      " ++ accented ("--" ++ c.name) ++ " <" ++ word ++ ">"
  | .ending letter _ =>
    "  " ++ accented (String.ofList ['-', letter]) ++ ", " ++ accented ("--" ++ c.name)

/-- What an option is for, where else its value comes from, and what it
usually is. -/
def description (environment : List (String × String)) (c : Choice S) : String :=
  match c.role with
  | .value _ source usual _ =>
    let about := c.about ++ " [env: " ++ source ++ "=" ++
      (environment.lookup source).getD "" ++ "]"
    match usual with
    | some value => about ++ " [default: " ++ value ++ "]"
    | none => about
  | _ => c.about

/-- What stands in front of every line of a description. -/
def margin : String := "          "

/-- An option with its description below it. -/
def paragraph (environment : List (String × String)) (c : Choice S) : String :=
  let description := Text.parts '\n' (c.description environment).toList
  c.forms ++ "\n" ++
    Text.join "\n" (description.map fun line => margin ++ String.ofList line) ++ "\n"

end Choice

namespace Program

/-- How a program is used. -/
def help (p : Program S) (environment : List (String × String)) : String :=
  p.about ++ "\n\n" ++ accented "Usage:" ++ " " ++ accented p.name ++ " [OPTIONS]\n\n" ++
    accented "Options:" ++ "\n" ++
    String.join (p.choices.map (Choice.paragraph environment))

/-- The name of a program and its version. -/
def title (p : Program S) : String := p.name ++ " " ++ p.version ++ "\n"

/-- The answer to a command line that gives no settings. -/
def answer (p : Program S) (environment : List (String × String)) (stop : Stop) : String :=
  match stop, stop.fault? with
  | _, some fault => complaint fault
  | .version, none => p.title
  | _, none => p.help environment

end Program

end Roster.CommandLine
