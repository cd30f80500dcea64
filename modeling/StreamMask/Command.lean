/-
The command: masking of a file or of the standard input, line by line, and the check
of a configuration.

Nothing is read and nothing is written here. What a command finds around it is given
to it, and what it would write comes out as a report. Rules come first: nothing is
written of an input before every rule is known to be good.
-/
import StreamMask.Command.Remark
import StreamMask.Lines

namespace StreamMask

/-- What is to be masked, and how, beyond what a configuration says. -/
structure MaskOptions where
  config : Option String := none
  /-- The file that takes the place of the standard input. -/
  input : Option String := none
  paths : List String := []
  values : List String := []
  mask : Option String := none
deriving DecidableEq, Repr

/-- What is to be done. -/
inductive Command where
  | mask (options : MaskOptions)
  /-- Say whether a configuration can be used, and what it amounts to. -/
  | check (config : Option String)
deriving DecidableEq, Repr

/-- What a command finds around it. -/
structure Surroundings where
  /-- The content of a file. -/
  read : String → Except IoFault (List UInt8)
  /-- The value of a variable of the environment. -/
  lookup : String → Option String
  /-- The standard input. -/
  input : Except IoFault (List UInt8)
  /-- The time as log entries show it. -/
  stamp : String

/-- What comes of a command. -/
structure Report where
  code : ExitCode
  /-- The text for the standard output. -/
  output : String := ""
  /-- The texts for the standard error output, in order. -/
  messages : List String := []
deriving DecidableEq, Repr

/-- A message of failure. -/
def Report.errorText (text : String) : String := "error: " ++ text ++ "\n"

/-- The mask that an argument says: the one whose JSON it is, or else its own text. -/
def Mask.ofArgument (argument : String) : Mask :=
  match Mask.ofText argument.toList with
  | .ok mask => mask
  | .error _ => .string argument

namespace MaskOptions

/-- The rules of a configuration with those of the command line after them. A mask of the command
line is the default of them all. -/
def extend (options : MaskOptions) (rules : Rules) : Rules :=
  let rules := match options.mask with
    | none => rules
    | some argument => rules.withDefaultMask (.ofArgument argument)
  (rules.maskPaths options.paths none).maskValues options.values none

/-- What is to be masked: a file, or else the standard input. -/
def content (options : MaskOptions) (around : Surroundings) : Except IoFault (List UInt8) :=
  match options.input with
  | none => around.input
  | some path => around.read path

end MaskOptions

namespace Command

/-- The variable that names a configuration file. -/
def configVariable : String := "LM_MASK_CONFIG"

/-- A log that is kept while a command runs. -/
structure Diary where
  settings : Log.Settings
  set : MaskerSet
  stamp : String

namespace Diary

/-- The diary for the masks of this run: entries are masked as the input is. -/
def start (overrides : Log.Overrides) (around : Surroundings) (set : MaskerSet) : Diary :=
  ⟨.ofEnvironment around.lookup overrides, set, around.stamp⟩

/-- What is written of an entry: its line, or nothing. -/
def write (diary : Diary) (entry : Log.Entry) : List String :=
  (diary.settings.line? diary.set diary.stamp entry).toList

/-- What is written of a remark. -/
def remark (diary : Diary) (remark : Remark) : List String := diary.write remark.entry

end Diary

/-! ## Masking -/

/-- Whether a file was opened. That it is a directory shows only when it is read. -/
def opens : Except IoFault (List UInt8) → Bool
  | .ok _ | .error .isDirectory => true
  | .error _ => false

/-- Mask the lines of what was opened: what is written of them and what came of it. -/
def maskContent (set : MaskerSet) (content : Except IoFault (List UInt8)) :
    String × Except LineFailure Nat :=
  match content with
  | .error fault => ("", .error ⟨1, .io fault⟩)
  | .ok input => maskLines set input ""

/-- The report on lines that have been masked. -/
def reportLines (diary : Diary) (content : Except IoFault (List UInt8)) : Report :=
  match maskContent diary.set content with
  | (output, .ok count) => ⟨.clean, output, diary.remark (.complete count)⟩
  | (output, .error fault) =>
    ⟨.ofFailure fault.failure, output,
      diary.remark (.failed fault.line) ++ [Report.errorText fault.message]⟩

/-- Mask what the options name, with a set that has been built. -/
def maskInput (diary : Diary) (options : MaskOptions) (around : Surroundings) : Report :=
  match options.input, options.content around with
  | some path, .error fault =>
    if opens (.error fault) then reportLines diary (.error fault)
    else
      ⟨.ioError, "", diary.remark (.inputRefused path fault) ++
        [Report.errorText ("cannot open " ++ path ++ ": " ++ fault.message)]⟩
  | _, content => reportLines diary content

/-- A report with a last remark on how it ends. -/
def closing (diary : Diary) (report : Report) : Report :=
  { report with messages := report.messages ++ diary.remark (.exiting report.code) }

/-- The report on a configuration that cannot be used. -/
def refusal (failure : ResolveFailure) : Report :=
  ⟨.configError, "", [Report.errorText failure.message]⟩

def runMask (overrides : Log.Overrides) (options : MaskOptions) (around : Surroundings) :
    Report :=
  match Resolved.resolve around.read options.config (around.lookup configVariable) with
  | .error failure => refusal failure
  | .ok resolved =>
    match (options.extend resolved.config.rules).build with
    | .error failure => refusal (.rules failure)
    | .ok set =>
      let diary := Diary.start overrides around set
      let report := maskInput diary options around
      closing diary
        { report with
          messages := diary.remark (.configResolved resolved.source) ++ report.messages }

/-! ## Checking -/

open Json (Datum)

/-- A report in JSON. -/
def jsonReport (code : ExitCode) (fields : List (String × Datum)) : Report :=
  ⟨code, (Datum.object fields).pretty 0 ++ "\n", []⟩

/-- A number as a datum. -/
def countDatum (n : Nat) : Datum := .number (.natural (UInt64.ofNat n))

/-- How many maskers there are, as a datum. -/
def countsDatum (counts : MaskerCounts) : Datum :=
  .object [("custom_field_maskers", countDatum counts.customFields),
    ("custom_value_maskers", countDatum counts.customValues),
    ("masked_names", countDatum counts.names), ("name_set_maskers", countDatum counts.nameSets),
    ("path_maskers", countDatum counts.paths), ("regex_maskers", countDatum counts.regexes)]

/-- The report on a configuration whose rules are good. -/
def summary (resolved : Resolved) (set : MaskerSet) : Report :=
  jsonReport .clean [("default_mask", Config.maskDatum resolved.config.defaultMask),
    ("maskers", countsDatum set.counts),
    ("path", match resolved.path with
      | none => .null
      | some path => .string path),
    ("schema_version", .string resolved.config.schemaVersion),
    ("source", .string resolved.source.key), ("status", .string "ok")]

/-- The report on a configuration that is not there or cannot be used. -/
def faultSummary (message : String) (source : Option Source) : Report :=
  jsonReport .configError ([("code", .string ExitCode.configError.name),
    ("error", .string message)] ++
    (source.map fun source => ("source", .string source.key)).toList ++
    [("status", .string "error")])

def runCheck (overrides : Log.Overrides) (config : Option String) (around : Surroundings) :
    Report :=
  match Resolved.resolve around.read config (around.lookup configVariable) with
  | .error failure => faultSummary failure.message none
  | .ok resolved =>
    match resolved.config.rules.build with
    | .error failure => faultSummary failure.message (some resolved.source)
    | .ok set =>
      let diary := Diary.start overrides around set
      closing diary
        { summary resolved set with messages := diary.remark (.configValid resolved.source) }

/-- Carry out a command. -/
def run (command : Command) (overrides : Log.Overrides) (around : Surroundings) : Report :=
  match command with
  | mask options => runMask overrides options around
  | check config => runCheck overrides config around

/-- The files that a command may read, besides the one that a variable names. -/
def files : Command → List String
  | mask options => options.config.toList ++ options.input.toList
  | check config => config.toList

/-- Whether a command reads the standard input. -/
def readsInput : Command → Bool
  | mask options => options.input.isNone
  | check _ => false

end Command
end StreamMask
