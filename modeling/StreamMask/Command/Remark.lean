/-
Remarks: what a command has to say about its work, as log entries.
-/
import StreamMask.ExitCode
import StreamMask.Log.Notice
import StreamMask.Log.Settings

namespace StreamMask.Command

/-- What is worth a remark. -/
inductive Remark where
  | configResolved (source : Source)
  | configValid (source : Source)
  | inputRefused (path : String) (fault : IoFault)
  /-- All of the input has been masked. -/
  | complete (documents : Nat)
  /-- The work ended at a line. -/
  | failed (line : Nat)
  | exiting (code : ExitCode)
deriving DecidableEq, Repr

namespace Remark

open Log (Entry messageField countField)

/-- The part of the program that remarks come from. -/
def target : String := "lm_core"

def entry : Remark → Entry
  | configResolved source =>
    ⟨.debug, target,
      [messageField "masking config resolved", ("source", .string source.display)]⟩
  | configValid source =>
    ⟨.debug, target, [messageField "masking config valid", ("source", .string source.display)]⟩
  | inputRefused path fault =>
    ⟨.error, target, [messageField "cannot open input", ("path", .string path),
      ("error", .string fault.message)]⟩
  | complete documents =>
    ⟨.info, target, [messageField "masking complete", countField "documents" documents]⟩
  | failed line => ⟨.error, target, [messageField "masking failed", countField "line" line]⟩
  | exiting code =>
    ⟨.debug, target, [messageField "exiting", ("exit_code", .string code.display)]⟩

end Remark
end StreamMask.Command
