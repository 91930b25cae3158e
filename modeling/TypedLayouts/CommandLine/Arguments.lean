import TypedLayouts.Config.Format
import TypedLayouts.Text.Separator

/-!
# Arguments

What the arguments of the program ask for. They name a subcommand, and flags before and behind it:
which flags there are depends on whether a subcommand came before. Without a subcommand the program
generates. A flag with a value may be given once; the value is the next argument, or it is joined to
the flag. Arguments are read from left to right, and the first one that asks for the version or for
help, or that is wrong, decides.
-/

namespace TypedLayouts.CommandLine

/-- What the program is asked to do. -/
inductive Command where
  /-- Generate the modules of a config, perhaps with an environment file of the user's choice. -/
  | generate (config : Path) (envFile : Option Path)
  /-- Write a first config, perhaps over an existing file. -/
  | init (config : Path) (force : Bool)
  /-- Show the version. -/
  | version
  /-- Show how the program is used. -/
  | help
  deriving DecidableEq, Repr

/-- A subcommand. -/
inductive Subcommand where
  /-- Generate modules. -/
  | generate
  /-- Write a first config. -/
  | init
  deriving DecidableEq, Repr

/-- A flag. -/
inductive Flag where
  /-- Say more about what happens. -/
  | verbose
  /-- Show how the program is used. -/
  | help
  /-- Show the version. -/
  | version
  /-- The path of the config. -/
  | config
  /-- The path of the environment file. -/
  | envPath
  /-- Overwrite an existing file. -/
  | force
  deriving DecidableEq, Repr

namespace Flag

/-- The name of a flag behind two dashes. -/
def long : Flag → String
  | .verbose => "verbose"
  | .help => "help"
  | .version => "version"
  | .config => "config"
  | .envPath => "env-path"
  | .force => "force"

/-- The letter of a flag behind one dash. -/
def short? : Flag → Option Char
  | .verbose => some 'v'
  | .help => some 'h'
  | .version => some 'V'
  | .config => some 'c'
  | .envPath => none
  | .force => none

/-- The flag has a value. -/
def takesValue (flag : Flag) : Bool :=
  flag = .config || flag = .envPath

/-- The flags that may stand behind a subcommand, or before there is one. -/
def available : Option Subcommand → List Flag
  | none => [.verbose, .help, .version]
  | some .generate => [.verbose, .help, .config, .envPath]
  | some .init => [.verbose, .help, .config, .force]

end Flag

/-- What the arguments have given so far. -/
structure Given where
  /-- The subcommand. -/
  subcommand : Option Subcommand := none
  /-- The path of the config. -/
  config : Option String := none
  /-- The path of the environment file. -/
  envPath : Option String := none
  /-- An existing file is to be overwritten. -/
  force : Bool := false
  deriving DecidableEq, Repr

/-- What one argument comes to. -/
inductive Reading where
  /-- It is complete, and the next one can be read. -/
  | next (given : Given)
  /-- The next argument is the value of a flag. -/
  | needsValue (given : Given) (flag : Flag)
  /-- It decides what to do. -/
  | done (command : Command)
  /-- It is wrong. -/
  | wrong

namespace Given

/-- What to do when there are no more arguments. -/
def command (given : Given) : Command :=
  let config := (given.config.map Path.mk).getD Config.defaultPath
  match given.subcommand with
  | some .init => .init config given.force
  | _ => .generate config (given.envPath.map Path.mk)

/-- Take a flag without a value. -/
def raise (given : Given) : Flag → Reading
  | .verbose => .next given
  | .help => .done .help
  | .version => .done .version
  | .force => if given.force then .wrong else .next { given with force := true }
  | .config => .wrong
  | .envPath => .wrong

/-- Take a flag with a value, which must not be empty. -/
def give (given : Given) (flag : Flag) (value : String) : Reading :=
  if value.isEmpty then .wrong
  else
    match flag, given.config, given.envPath with
    | .config, none, _ => .next { given with config := some value }
    | .envPath, _, none => .next { given with envPath := some value }
    | _, _, _ => .wrong

/-- Read letters of flags behind one dash. What is behind a flag with a value is its value. -/
def letters (given : Given) : List Char → Reading
  | [] => .next given
  | c :: rest =>
    match (Flag.available given.subcommand).find? (·.short? = some c) with
    | none => .wrong
    | some flag =>
      if flag.takesValue then
        match rest with
        | [] => .needsValue given flag
        | '=' :: value => given.give flag (String.ofList value)
        | value => given.give flag (String.ofList value)
      else
        match given.raise flag with
        | .next given => letters given rest
        | reading => reading

/-- Read the name of a flag behind two dashes, perhaps with its value. -/
def long (given : Given) (text : List Char) : Reading :=
  let (name, value) :=
    match Text.cutAt ['='] text with
    | some (name, value) => (name, some value)
    | none => (text, none)
  match (Flag.available given.subcommand).find? (·.long = String.ofList name), value with
  | none, _ => .wrong
  | some flag, some value =>
    if flag.takesValue then given.give flag (String.ofList value) else .wrong
  | some flag, none => if flag.takesValue then .needsValue given flag else given.raise flag

/-- Read a word that is no flag: the name of a subcommand, if there is none yet. -/
def word (given : Given) (text : String) : Reading :=
  match given.subcommand, text with
  | none, "generate" => .next { given with subcommand := some .generate }
  | none, "init" => .next { given with subcommand := some .init }
  | none, "help" => .done .help
  | _, _ => .wrong

/-- Read one argument. -/
def argument (given : Given) (text : String) : Reading :=
  match text.toList with
  | '-' :: '-' :: name => given.long name
  | '-' :: c :: rest => given.letters (c :: rest)
  | _ => given.word text

/-- The argument can be the value of a flag: it does not look like a flag itself. -/
def isValue (text : String) : Bool :=
  text = "-" || text.toList.head? ≠ some '-'

/-- Read arguments. Two dashes on their own end the flags, and nothing else can follow. -/
def read (given : Given) : List String → Option Command
  | [] => some given.command
  | "--" :: rest => if rest.isEmpty then some given.command else none
  | text :: rest =>
    match given.argument text, rest with
    | .wrong, _ => none
    | .done command, _ => some command
    | .next given, rest => read given rest
    | .needsValue _ _, [] => none
    | .needsValue given flag, value :: rest =>
      if isValue value then
        match given.give flag value with
        | .next given => read given rest
        | _ => none
      else none

end Given

/-- The command that arguments ask for; `none` when they are wrong. -/
def Command.ofArguments? (arguments : List String) : Option Command :=
  Given.read {} arguments

end TypedLayouts.CommandLine
