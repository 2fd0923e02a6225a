import Stackwright.Command

/-!
# Command lines

The command that a list of arguments asks for, or how the list misses being one. An option takes
its value from the same argument or from the next; whether the value is accepted is decided only
when the option after it, or the end of the list, is reached.
-/

namespace Stackwright

/-- What a list of arguments is if it is no command. -/
inductive Usage where
  | help
  | version
  /-- No command is named. -/
  | noCommand
  | unknownCommand
  | unknownArgument
  /-- An option has no value, or one that it does not accept. -/
  | invalidValue
  /-- An option without value was given one. -/
  | needlessValue
  | repeatedOption
deriving DecidableEq, Repr

namespace Command

inductive Verb where
  | compile
  | validate
  | deps
  | schema
deriving DecidableEq, Repr

def Verb.ofName? : String → Option Verb
  | "compile" => some .compile
  | "validate" => some .validate
  | "deps" => some .deps
  | "schema" => some .schema
  | _ => none

/-- The name under which help on a command is asked for. -/
def helpName : String := "help"

/-- The options that take a value. -/
inductive Choice where
  | file
  | output
  | format
deriving DecidableEq, Repr

def Verb.choices : Verb → List Choice
  | .compile => [.file, .output, .format]
  | .validate | .deps => [.file]
  | .schema => []

def Choice.name : Choice → String
  | .file => "file"
  | .output => "output"
  | .format => "format"

def Choice.letter? : Choice → Option Char
  | .file => some 'f'
  | .output => some 'o'
  | .format => none

/-- The values given so far. -/
structure Given where
  file : Option FilePath := none
  output : Option FilePath := none
  format : Option TemplateFormat := none

def path? (value : String) : Except Usage FilePath :=
  if value.isEmpty then .error .invalidValue else .ok ⟨value⟩

def format? : String → Except Usage TemplateFormat
  | "json" => .ok .json
  | "yaml" => .ok .yaml
  | _ => .error .invalidValue

/-- A value for an option that has none yet. -/
def fill {α : Type} (slot : Option α) (value : Except Usage α) : Except Usage (Option α) :=
  match slot with
  | some _ => .error .repeatedOption
  | none => value.map some

/-- Gives an option its value. -/
def Given.put (given : Given) (choice : Choice) (value : String) : Except Usage Given :=
  match choice with
  | .file => do return { given with file := ← fill given.file (path? value) }
  | .output => do return { given with output := ← fill given.output (path? value) }
  | .format => do return { given with format := ← fill given.format (format? value) }

/-- An option that was named, and its value once that was read. -/
abbrev Pending := Option (Choice × Option String)

/-- Accepts the pending option. -/
def Given.settle (given : Given) : Pending → Except Usage Given
  | none => .ok given
  | some (_, none) => .error .invalidValue
  | some (choice, some value) => given.put choice value

/-- The forms of an argument. -/
inductive Shape where
  /-- Two hyphens alone: no option follows. -/
  | divider
  /-- Two hyphens and a name, with what follows an equals sign. -/
  | long (name : String) (value : Option String)
  /-- A hyphen and a letter, with the characters after it. -/
  | short (letter : Char) (rest : List Char)
  | plain

def Shape.ofArgument (argument : String) : Shape :=
  match argument.toList with
  | ['-', '-'] => .divider
  | '-' :: '-' :: rest =>
    let name := rest.takeWhile (· != '=')
    let value := match rest.drop name.length with
      | _ :: value => some (String.ofList value)
      | [] => none
    .long (String.ofList name) value
  | '-' :: letter :: rest => .short letter rest
  | _ => .plain

/-- The value attached to a letter; an equals sign in front does not count. -/
def attached? : List Char → Option String
  | [] => none
  | '=' :: value => some (String.ofList value)
  | value => some (String.ofList value)

/-- Names an option, with its value if that is attached. -/
def name (given : Given) (pending : Pending) (choice : Choice) (value : Option String) :
    Except Usage (Given × Pending) := do
  let given ← given.settle pending
  match value with
  | some value => return (← given.put choice value, none)
  | none => return (given, some (choice, none))

/-- The values of the options that follow a command. -/
def readOptions (verb : Verb) : List String → Given → Pending → Except Usage Given
  | [], given, pending => given.settle pending
  | argument :: rest, given, pending =>
    match Shape.ofArgument argument with
    | .divider => if rest.isEmpty then given.settle pending else .error .unknownArgument
    | .long "help" (some _) => .error .needlessValue
    | .long "help" none => given.settle pending *> .error .help
    | .long word value =>
      match verb.choices.find? fun choice => choice.name == word with
      | none => .error .unknownArgument
      | some choice => do
        let (given, pending) ← name given pending choice value
        readOptions verb rest given pending
    | .short 'h' _ => given.settle pending *> .error .help
    | .short letter attached =>
      match verb.choices.find? fun choice => choice.letter? == some letter with
      | none => .error .unknownArgument
      | some choice => do
        let (given, pending) ← name given pending choice (attached? attached)
        readOptions verb rest given pending
    | .plain =>
      match pending with
      | some (choice, none) => readOptions verb rest given (some (choice, some argument))
      | _ => .error .unknownArgument

def Verb.command (verb : Verb) (given : Given) : Command :=
  let file := given.file.getD defaultFile
  match verb with
  | .compile => .compile file given.output (given.format.getD .json)
  | .validate => .validate file
  | .deps => .deps file
  | .schema => .schema

/-- Whether help on the named command is there; help itself is a command too. -/
def helpUsage : List String → Usage
  | [] => .help
  | [word] =>
    if (Verb.ofName? word).isSome || word = helpName then .help else .unknownCommand
  | _ => .unknownCommand

/-- The command that a list of arguments asks for. -/
def ofArguments : List String → Except Usage Command
  | [] => .error .noCommand
  | argument :: rest =>
    match Verb.ofName? argument with
    | some verb => do return verb.command (← readOptions verb rest {} none)
    | none =>
      if argument = helpName then .error (helpUsage rest)
      else match Shape.ofArgument argument with
        | .divider =>
          match rest with
          | [] => .error .noCommand
          | word :: _ =>
            if (Verb.ofName? word).isSome || word = helpName then .error .unknownArgument
            else .error .unknownCommand
        | .long "help" value => .error (if value.isSome then .needlessValue else .help)
        | .long "version" value => .error (if value.isSome then .needlessValue else .version)
        | .short 'h' _ => .error .help
        | .short 'V' _ => .error .version
        | .plain => .error .unknownCommand
        | _ => .error .unknownArgument

end Command

end Stackwright
