/-
The arguments of the command line.

A level is what stands before the word that names a command, or what stands after it.
Each level has options of its own, and those of the log are options of every level;
what an inner level says of them counts more. An option may be given once on a level,
unless it is one that gathers values.
-/
import StreamMask.Command

namespace StreamMask.Command

/-- Options of the command line. -/
inductive Flag where
  | logLevel
  | logFormat
  | logSource
  | config
  | input
  | path
  | value
  | mask
  | help
  | version
deriving DecidableEq, Repr

namespace Flag

/-- The name after two dashes. -/
def long : Flag → String
  | logLevel => "log-level"
  | logFormat => "log-format"
  | logSource => "log-source"
  | config => "config"
  | input => "input"
  | path => "path"
  | value => "value"
  | mask => "mask"
  | help => "help"
  | version => "version"

/-- The name after one dash. -/
def short? : Flag → Option Char
  | input => some 'i'
  | path => some 'p'
  | help => some 'h'
  | version => some 'V'
  | _ => none

def takesValue : Flag → Bool
  | logSource | help | version => false
  | _ => true

/-- Whether the option may be given again on its level. -/
def gathers : Flag → Bool
  | path | value => true
  | _ => false

/-- Whether a value makes sense: the names of levels and formats are fixed, and a file has a
name. -/
def accepts (flag : Flag) (text : String) : Bool :=
  match flag with
  | logLevel => (Log.Verbosity.ofName? text).isSome
  | logFormat => (Log.Format.ofName? text).isSome
  | config | input => text ≠ ""
  | _ => true

/-- The options of every level. -/
def common : List Flag := [logLevel, logFormat, logSource, help, version]

end Flag

/-- A part of the command line with options of its own. -/
inductive Level where
  | outer
  | mask
  | check
deriving DecidableEq, Repr

namespace Level

def flags : Level → List Flag
  | outer => Flag.common
  | mask => Flag.common ++ [.config, .input, .path, .value, .mask]
  | check => Flag.common ++ [.config]

end Level

/-- What is wrong with arguments. -/
inductive ArgumentFault where
  | unexpected (argument : String)
  | missingValue (flag : Flag)
  | invalidValue (flag : Flag) (text : String)
  /-- A value stands with an option that takes none. -/
  | surplusValue (flag : Flag) (text : String)
  | repeated (flag : Flag)
  | noCommand
deriving DecidableEq, Repr

def ArgumentFault.message : ArgumentFault → String
  | unexpected argument => "unexpected argument '" ++ argument ++ "'"
  | missingValue flag => "a value is required for '--" ++ flag.long ++ "'"
  | invalidValue flag text => "invalid value '" ++ text ++ "' for '--" ++ flag.long ++ "'"
  | surplusValue flag text => "unexpected value '" ++ text ++ "' for '--" ++ flag.long ++ "'"
  | repeated flag => "the argument '--" ++ flag.long ++ "' cannot be used multiple times"
  | noCommand => "a command is required"

/-- An option that has been given, with its value or without one. -/
structure Given where
  flag : Flag
  text : String
deriving DecidableEq, Repr

/-! ## One level -/

/-- What has been read of a level. A value that stands in an argument of its own is held until it is
known that nothing else comes first. -/
structure Reading where
  /-- What has been taken, in order. -/
  given : List Given := []
  /-- The option that came last, if its value is an argument of its own, and that value. -/
  held : Option (Flag × Option String) := none
deriving DecidableEq, Repr

namespace Reading

/-- Take an option. -/
def take (reading : Reading) (flag : Flag) (text : String) : Except ArgumentFault Reading :=
  if !flag.gathers && reading.given.any (·.flag = flag) then .error (.repeated flag)
  else if !flag.accepts text then .error (.invalidValue flag text)
  else .ok { reading with given := reading.given ++ [⟨flag, text⟩] }

/-- Take what is held. -/
def settle (reading : Reading) : Except ArgumentFault Reading :=
  match reading.held with
  | none => .ok reading
  | some (flag, none) => .error (.missingValue flag)
  | some (flag, some text) => { reading with held := none }.take flag text

/-- Whether the next argument may be a value. -/
def awaitsValue (reading : Reading) : Bool :=
  match reading.held with
  | some (_, none) => true
  | _ => false

/-- Hold a value that was awaited. -/
def hold (reading : Reading) (text : String) : Reading :=
  { reading with held := reading.held.map fun (flag, _) => (flag, some text) }

end Reading

/-- Whether an argument begins like an option; a single dash does not. -/
def looksLikeFlag (argument : String) : Bool :=
  match argument.toList with
  | '-' :: _ :: _ => true
  | _ => false

/-- An argument as it is written: an option with what is attached to it, or something else. -/
inductive Word where
  | flag (flag : Flag) (attached : Option String)
  /-- Two dashes: no option follows. -/
  | ending
  | plain
  | unknown
deriving DecidableEq, Repr

/-- What an argument is on a level. A value is attached to a long name by an equals sign, and to a
short name with or without one. -/
def Word.ofArgument (level : Level) (argument : String) : Word :=
  match argument.toList with
  | '-' :: '-' :: [] => .ending
  | '-' :: '-' :: text =>
    let name := String.ofList (text.takeWhile (· ≠ '='))
    let attached := match text.dropWhile (· ≠ '=') with
      | [] => none
      | _ :: value => some (String.ofList value)
    match level.flags.find? (·.long = name) with
    | some found => .flag found attached
    | none => .unknown
  | '-' :: c :: rest =>
    match level.flags.find? (·.short? = some c) with
    | none => .unknown
    | some found =>
      if !found.takesValue then .flag found none
      else
        match rest with
        | [] => .flag found none
        | '=' :: value => .flag found (some (String.ofList value))
        | value => .flag found (some (String.ofList value))
  | _ => .plain

/-- How the reading of a level ends. -/
inductive LevelEnd where
  /-- Help or the version is asked for, whatever follows. -/
  | asked (flag : Flag)
  /-- The arguments from the first that is no option. -/
  | upTo (reading : Reading) (rest : List String)
deriving DecidableEq, Repr

/-- Read an option of a level. -/
def readFlag (reading : Reading) (flag : Flag) (attached : Option String) :
    Except ArgumentFault Reading :=
  match flag.takesValue, attached with
  | false, some text => .error (.surplusValue flag text)
  | false, none => reading.settle.bind fun reading => reading.take flag ""
  | true, some text => reading.settle.bind fun reading => reading.take flag text
  | true, none => reading.settle.map fun reading => { reading with held := some (flag, none) }

/-- Read the options of a level. -/
def readLevel (level : Level) (reading : Reading) : List String → Except ArgumentFault LevelEnd
  | [] => .ok (.upTo reading [])
  | argument :: rest =>
    if reading.awaitsValue && !looksLikeFlag argument then
      readLevel level (reading.hold argument) rest
    else
      match Word.ofArgument level argument with
      | .flag flag attached =>
        match readFlag reading flag attached with
        | .error fault => .error fault
        | .ok reading =>
          if flag = .help || flag = .version then .ok (.asked flag)
          else readLevel level reading rest
      | .unknown => .error (.unexpected argument)
      | .ending | .plain => .ok (.upTo reading (argument :: rest))

/-! ## All levels -/

/-- What arguments ask for. -/
inductive Request where
  | run (command : Command) (overrides : Log.Overrides)
  | help
  | version
deriving DecidableEq, Repr

/-- The value of an option that may be given once. -/
def value? (given : List Given) (flag : Flag) : Option String :=
  (given.find? (·.flag = flag)).map Given.text

/-- All values of an option. -/
def values (given : List Given) (flag : Flag) : List String :=
  (given.filter (·.flag = flag)).map Given.text

/-- What options say of the log. -/
def overrides (given : List Given) : Log.Overrides where
  verbosity := (value? given .logLevel).bind Log.Verbosity.ofName?
  format := (value? given .logFormat).bind Log.Format.ofName?
  showsSource := (value? given .logSource).isSome

/-- What an inner level says of the log, before what the outer one says. -/
def preferInner (inner outer : Log.Overrides) : Log.Overrides where
  verbosity := inner.verbosity <|> outer.verbosity
  format := inner.format <|> outer.format
  showsSource := inner.showsSource || outer.showsSource

/-- The command of an inner level. -/
def Level.command (level : Level) (given : List Given) : Command :=
  match level with
  | .mask =>
    .mask {
      config := value? given .config
      input := value? given .input
      paths := values given .path
      values := values given .value
      mask := value? given .mask }
  | _ => .check (value? given .config)

/-- The level that a word leads to. -/
def Level.ofName? (name : String) : Option Level :=
  match name with
  | "mask" => some .mask
  | "check" => some .check
  | _ => none

/-- Read what follows the word that names a command. The options before it are looked at last. -/
def readCommand (outer : Reading) (level : Level) (arguments : List String) :
    Except ArgumentFault Request :=
  match readLevel level {} arguments with
  | .error fault => .error fault
  | .ok (.asked flag) => .ok (if flag = .version then .version else .help)
  | .ok (.upTo inner rest) =>
    match rest with
    | [] | ["--"] => do
      let inner ← inner.settle
      let outer ← outer.settle
      pure (.run (level.command inner.given)
        (preferInner (overrides inner.given) (overrides outer.given)))
    | "--" :: argument :: _ => .error (.unexpected argument)
    | argument :: _ => .error (.unexpected argument)

/-- Read what follows the word that asks for help: at most one word, that a command or this word
has for its name. -/
def readHelp : List String → Except ArgumentFault Request
  | [] => .ok .help
  | word :: rest =>
    if word = "help" || (Level.ofName? word).isSome then
      match rest with
      | [] => .ok .help
      | argument :: _ => .error (.unexpected argument)
    else .error (.unexpected word)

/-- Read all arguments. -/
def readArguments (arguments : List String) : Except ArgumentFault Request :=
  match readLevel .outer {} arguments with
  | .error fault => .error fault
  | .ok (.asked flag) => .ok (if flag = .version then .version else .help)
  | .ok (.upTo _ []) => .error .noCommand
  | .ok (.upTo outer (word :: rest)) =>
    if word = "help" then readHelp rest
    else
      match Level.ofName? word with
      | some level => readCommand outer level rest
      | none => .error (.unexpected word)

/-! ## Texts -/

/-- The program's name and version. -/
def versionText : String := "lm-core 0.1.0\n"

/-- How the command is used. -/
def usageText : String :=
  "Usage: lm-core [OPTIONS] <COMMAND>\n\n" ++
  "Commands:\n" ++
  "  mask   Mask JSON texts that stand on lines of their own\n" ++
  "  check  Check a masking configuration and say what it amounts to\n" ++
  "  help   Say how the command is used\n\n" ++
  "Options:\n" ++
  "  --log-level <LEVEL>    trace, debug, info, warn, error or off\n" ++
  "  --log-format <FORMAT>  human or jsonl\n" ++
  "  --log-source           Show places in the program's text\n" ++
  "  -h, --help             Say how the command is used\n" ++
  "  -V, --version          Say which version this is\n\n" ++
  "Options of mask:\n" ++
  "  --config <FILE>        Masking configuration, .json or .toml\n" ++
  "  -i, --input <FILE>     Read a file instead of the standard input\n" ++
  "  -p, --path <PATH>      Mask this path too\n" ++
  "  --value <REGEX>        Mask what this regular expression matches too\n" ++
  "  --mask <MASK>          Default mask: JSON without members, or text\n\n" ++
  "Options of check:\n" ++
  "  --config <FILE>        Masking configuration, .json or .toml\n"

end StreamMask.Command
