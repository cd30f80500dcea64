/-
Refusals of the outside world: of files, and of what output is written to.
-/
namespace StreamMask

/-- What the outside world refused. -/
inductive IoFault where
  | closed
  | flushRefused
  | notUtf8
  | isDirectory
  | notFound
  /-- A step on the way to a file is no directory. -/
  | notDirectory
  | nameTooLong
  | nulInName
  | other (message : String)
deriving DecidableEq, Repr

def IoFault.message : IoFault → String
  | closed => "closed"
  | flushRefused => "flush refused"
  | notUtf8 => "stream did not contain valid UTF-8"
  | isDirectory => "Is a directory (os error 21)"
  | notFound => "No such file or directory (os error 2)"
  | notDirectory => "Not a directory (os error 20)"
  | nameTooLong => "File name too long (os error 36)"
  | nulInName => "file name contained an unexpected NUL byte"
  | other message => message

end StreamMask
