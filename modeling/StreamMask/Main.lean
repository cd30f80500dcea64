/-
The program: what a command needs is read, the command is carried out, and its report
is written.
-/
import StreamMask.Command.Arguments
import Std.Time

namespace StreamMask.Program

/-- The number of a refusal; some calls give it with its sign changed. -/
def faultNumber (code : UInt32) : UInt32 := if code < 0x80000000 then code else 0 - code

/-- What the outside world refused. -/
def ioFault (fault : IO.Error) : IoFault :=
  match fault with
  | .noFileOrDirectory _ _ _ => .notFound
  | .inappropriateType _ code _ =>
    if faultNumber code = 21 then .isDirectory
    else if faultNumber code = 20 then .notDirectory else .other (toString fault)
  | .invalidArgument _ code _ =>
    if faultNumber code = 36 then .nameTooLong else .other (toString fault)
  | .permissionDenied _ _ _ => .other "Permission denied (os error 13)"
  | fault => .other (toString fault)

/-- What an action gives, or what was refused. -/
def attempt {α : Type} (action : IO α) : IO (Except IoFault α) := do
  try
    return .ok (← action)
  catch fault =>
    return .error (ioFault fault)

/-- Read the standard input to its end. -/
def readInput : IO (List UInt8) := do
  let handle ← IO.getStdin
  let mut bytes := ByteArray.empty
  let mut ended := false
  while !ended do
    let piece ← handle.read 65536
    bytes := bytes ++ piece
    ended := piece.isEmpty
  return bytes.toList

/-- Read what a command may need. -/
def gather (command : Command) : IO Surroundings := do
  let values ← (Command.configVariable :: Log.Settings.variableNames).mapM fun name => do
    return (name, ← IO.getEnv name)
  let lookup (name : String) : Option String := (values.lookup name).join
  let paths := command.files ++ (lookup Command.configVariable).toList
  let files ← paths.mapM fun (path : String) => do
    return (path, ← attempt ((·.toList) <$> IO.FS.readBinFile path))
  let input ← if command.readsInput then attempt readInput else pure (.ok [])
  let now ← Std.Time.Timestamp.now
  let time := Std.Time.DateTime.ofTimestamp now .UTC
  return {
    read := fun path => (files.lookup path).getD (.error .notFound)
    lookup := lookup
    input := input
    stamp := time.format "uuuu-MM-dd'T'HH:mm:ss.nnnnnnnnnxxx" }

/-- Write a report. If its output is refused, that is a failure of its own. -/
def write (report : Report) : IO ExitCode := do
  for message in report.messages do
    IO.eprint message
  let written ← attempt do
    let handle ← IO.getStdout
    handle.putStr report.output
    handle.flush
  match written with
  | .ok () => return report.code
  | .error fault =>
    IO.eprint (Report.errorText ("cannot write output: " ++ fault.message))
    return report.code.and .ioError

/-- Do what the arguments ask for. -/
def run (arguments : List String) : IO ExitCode := do
  match Command.readArguments arguments with
  | .error fault =>
    IO.eprint (Report.errorText fault.message ++ "\n" ++ Command.usageText)
    return .argsError
  | .ok .help =>
    IO.print Command.usageText
    return .clean
  | .ok .version =>
    IO.print Command.versionText
    return .clean
  | .ok (.run command overrides) =>
    write (command.run overrides (← gather command))

end StreamMask.Program

/-- The program's entry: its exit code is that of the report. -/
def main (arguments : List String) : IO UInt32 := do
  return UInt32.ofNat (← StreamMask.Program.run arguments).number
