/-
Settings of the log: from the command line, from variables of the environment, or
by default, in this order.
-/
import StreamMask.Log.Filter

namespace StreamMask.Log

/-- How entries are written. -/
inductive Format where
  | human
  | jsonl
deriving DecidableEq, Repr

namespace Format

def name : Format → String
  | human => "human"
  | jsonl => "jsonl"

/-- The names by which a format may be called. -/
def names : Format → List String
  | human => ["human", "console", "pretty"]
  | jsonl => ["jsonl", "json"]

/-- The format of a name. -/
def ofName? (name : String) : Option Format :=
  [human, jsonl].find? fun format => format.names.contains name

end Format

namespace Verbosity

/-- The names by which a verbosity may be called. -/
def names : Verbosity → List String
  | off => ["off", "none", "quiet"]
  | upTo .warn => ["warn", "warning"]
  | upTo level => [level.name]

/-- The verbosity of a name. -/
def ofName? (name : String) : Option Verbosity :=
  all.find? fun verbosity => verbosity.names.contains name

end Verbosity

/-- Text without blanks at its ends, in lower case. -/
def plainWord (text : String) : String := (Text.trim text).map Char.toLower

/-- What a variable that is a switch says. -/
def switch? (text : String) : Option Bool :=
  let word := plainWord text
  if ["1", "true", "yes", "on"].contains word then some true
  else if ["0", "false", "no", "off"].contains word then some false
  else none

/-- What the command line says of the log. -/
structure Overrides where
  verbosity : Option Verbosity := none
  format : Option Format := none
  /-- Whether places in the program's text are shown in any case. -/
  showsSource : Bool := false
deriving DecidableEq, Repr

structure Settings where
  format : Format := .human
  verbosity : Verbosity := .upTo .info
  /-- The text of a filter that takes the place of the verbosity. -/
  filter : Option String := none
  timestamps : Bool := true
  showsSource : Bool := false
deriving DecidableEq, Repr

namespace Settings

/-- The variables of the environment that settings depend on. -/
def variableNames : List String :=
  ["RUST_LOG", "LM_LOG", "LM_LOG_FORMAT", "LM_LOG_TIMESTAMPS", "LM_LOG_SOURCE"]

/-- The text of the filter that the environment has, if it is one, and the filter. -/
def environmentFilter? (lookup : String → Option String) : Option (String × Filter) :=
  match lookup "RUST_LOG" with
  | none => none
  | some text =>
    if Text.isAllBlank text then none
    else (Filter.ofText? text).map fun filter => (text, filter)

/-- The settings for the given variables of the environment. What a variable says is passed over if
it makes no sense. A filter counts only if no verbosity is given. -/
def ofEnvironment (lookup : String → Option String) (overrides : Overrides) : Settings :=
  let plain : Settings := {}
  let named := overrides.verbosity <|>
    (lookup "LM_LOG").bind fun text => Verbosity.ofName? (plainWord text)
  let (verbosity, filter) := match named with
    | some verbosity => (verbosity, none)
    | none =>
      match environmentFilter? lookup with
      | some (text, filter) => (filter.greatest, some text)
      | none => (plain.verbosity, none)
  { format := (overrides.format <|>
      (lookup "LM_LOG_FORMAT").bind fun text => Format.ofName? (plainWord text)).getD plain.format
    verbosity := verbosity
    filter := filter
    timestamps := ((lookup "LM_LOG_TIMESTAMPS").bind switch?).getD plain.timestamps
    showsSource := overrides.showsSource ||
      ((lookup "LM_LOG_SOURCE").bind switch?).getD plain.showsSource }

/-- What is let through: by the filter, or else up to the verbosity in this program alone. -/
def activeFilter (settings : Settings) : Filter :=
  match settings.filter.bind Filter.ofText? with
  | some filter => filter
  | none => .ofTargets ["lm_core", "lm_mask"] settings.verbosity

/-- What is written of an entry, if it is let through and can be masked. -/
def line? (settings : Settings) (set : MaskerSet) (stamp : String) (entry : Entry) :
    Option String :=
  if settings.activeFilter.admits entry then
    match settings.format with
    | .jsonl => (entry.line set stamp []).toOption
    | .human =>
      (entry.text set).toOption.map fun text =>
        (if settings.timestamps then stamp ++ " " else "") ++ text ++ "\n"
  else none

end Settings
end StreamMask.Log
