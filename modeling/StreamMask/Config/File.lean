/-
Configuration files: their format goes by the extension of their name.
-/
import StreamMask.Config.Json
import StreamMask.Config.Toml
import StreamMask.Folder
import StreamMask.Text.Utf8

namespace StreamMask

namespace Config

/-- The last part of a path, unless that leads up or nowhere. -/
def fileName? (path : String) : Option (List Char) :=
  let parts := (Path.split path.toList).filter fun part => part ≠ [] && part ≠ ['.']
  match parts.getLast? with
  | none => none
  | some part => if part = ['.', '.'] then none else some part

/-- What follows the last point of a file's name, in lower case, unless the name begins with it. -/
def extension? (path : String) : Option String :=
  match fileName? path with
  | none => none
  | some name =>
    if name.contains '.' then
      let extension := (name.reverse.takeWhile (· ≠ '.')).reverse
      if extension.length + 1 = name.length then none
      else some ((String.ofList extension).map Char.toLower)
    else none

/-- The configuration in a file with this path and content, or why it cannot be read. -/
def ofFile (path : String) (content : Except IoFault (List UInt8)) : Except Failure Config :=
  match content with
  | .error fault => .error (.io fault)
  | .ok bytes =>
    match Text.ofBytes? bytes with
    | none => .error (.io .notUtf8)
    | some text =>
      match extension? path with
      | some "json" => (ofJson text.toList).mapError .json
      | some "toml" => (ofToml text.toList).mapError .config
      | other => .error (.config (.unsupportedFormat (other.getD "") path))

/-- Load a configuration from a file. -/
def load (folder : Folder) (path : String) : Except Failure Config := ofFile path (folder.read path)

/-- Save a configuration in a file, as JSON. -/
def save (config : Config) (folder : Folder) (path : String) : Except Failure Folder :=
  (folder.write path config.saved.toUTF8.data.toList).mapError .io

end Config

/-! ## Which file it is -/

/-- Where a configuration comes from. -/
inductive Source where
  | argument
  | environment
  | builtin
deriving DecidableEq, Repr

namespace Source

/-- The source as shown to a reader. -/
def display : Source → String
  | argument => "CLI argument"
  | environment => "environment variable"
  | builtin => "builtin default"

/-- The source in data. -/
def key : Source → String
  | argument => "cli_argument"
  | environment => "environment"
  | builtin => "builtin_default"

end Source

/-- Why there is no configuration to use. -/
inductive ResolveFailure where
  | notFound (path : String) (source : Source)
  | load (path : String) (failure : Failure)
  /-- The configuration is there, and a rule in it cannot be used. -/
  | rules (failure : Failure)
deriving DecidableEq, Repr

def ResolveFailure.message : ResolveFailure → String
  | notFound path source =>
    "config file not found: " ++ path ++ " (from " ++ source.display ++ ")"
  | load path failure => "failed to load config " ++ path ++ ": " ++ failure.message
  | rules failure => "invalid masking rules: " ++ failure.message

/-- Whether a refusal means that there is no such file. -/
def IoFault.isAbsence : IoFault → Bool
  | notFound | notDirectory | nameTooLong | nulInName => true
  | closed | flushRefused | notUtf8 | isDirectory | other _ => false

/-- A configuration and where it came from. -/
structure Resolved where
  config : Config
  source : Source
  /-- The file it was read from, if any. -/
  path : Option String
deriving DecidableEq, Repr

namespace Resolved

/-- The file that is to be read, if any: the one that the command line names, or else the one that
the environment names with a path that is not empty. -/
def choose (argument environment : Option String) : Option (String × Source) :=
  match argument, environment with
  | some path, _ => some (path, .argument)
  | none, some path => if path = "" then none else some (path, .environment)
  | none, none => none

/-- Find and read the configuration. A file that is named and is not there is never passed over,
since the default masks nothing. -/
def resolve (read : String → Except IoFault (List UInt8)) (argument environment : Option String) :
    Except ResolveFailure Resolved :=
  match choose argument environment with
  | none => .ok ⟨{}, .builtin, none⟩
  | some (path, source) =>
    let content := read path
    let isAbsent := match content with
      | .error fault => fault.isAbsence
      | .ok _ => false
    if isAbsent then .error (.notFound path source)
    else
      match Config.ofFile path content with
      | .error failure => .error (.load path failure)
      | .ok config => .ok ⟨config, source, some path⟩

end Resolved
end StreamMask
