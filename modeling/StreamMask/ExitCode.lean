/-
Exit codes of the command: ten to nineteen for what its user can mend, from twenty
on for what went wrong while it ran.
-/
import StreamMask.Failure

namespace StreamMask

inductive ExitCode where
  | clean
  | argsError
  | configError
  | internalError
  | ioError
  | maskingError
deriving DecidableEq, Repr

namespace ExitCode

def number : ExitCode → Nat
  | clean => 0
  | argsError => 10
  | configError => 11
  | internalError => 20
  | ioError => 21
  | maskingError => 22

def name : ExitCode → String
  | clean => "OK_CLEAN"
  | argsError => "ERR_ARGS"
  | configError => "ERR_CONFIG"
  | internalError => "ERR_INTERNAL"
  | ioError => "ERR_IO"
  | maskingError => "ERR_MASKING"

/-- The code as shown to a reader. -/
def display (code : ExitCode) : String := code.name ++ " (" ++ toString code.number ++ ")"

/-- The code of two steps one after the other: that of the first that failed. -/
def and : ExitCode → ExitCode → ExitCode
  | clean, next => next
  | failed, _ => failed

/-- The code for a failure while a document is masked. -/
def ofFailure (failure : Failure) : ExitCode :=
  match failure with
  | .io _ => ioError
  | failure => if failure.isConfigFailure then configError else maskingError

end ExitCode
end StreamMask
