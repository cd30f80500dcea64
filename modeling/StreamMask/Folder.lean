/-
A folder of files, by their paths.
-/
import StreamMask.IoFault
import StreamMask.Path.Pattern

namespace StreamMask

/-- Files and directories by the parts of their paths; a directory has no content. -/
structure Folder where
  entries : List (List String × Option (List UInt8))
deriving DecidableEq, Repr

namespace Folder

def empty : Folder := ⟨[]⟩

/-- The parts of a path that lead anywhere. -/
def parts (path : String) : List String :=
  ((Path.split path.toList).filter fun part => part ≠ [] && part ≠ ['.']).map String.ofList

/-- How many bytes the name of a file may have. -/
def maxName : Nat := 255

/-- How many bytes a path may have. -/
def maxPath : Nat := 4095

/-- What is at a place: a directory without content, a file, or nothing. -/
def at? (folder : Folder) (place : List String) : Option (Option (List UInt8)) :=
  if place = [] then some none else folder.entries.lookup place

/-- Go down a path from a directory: the place that it leads to and whether anything is there. The
last part may be missing. -/
def walk (folder : Folder) (place : List String) :
    List String → Except IoFault (List String × Option (Option (List UInt8)))
  | [] => .ok (place, folder.at? place)
  | part :: rest =>
    if maxName < part.utf8ByteSize then .error .nameTooLong
    else
      let next := if part = ".." then place.dropLast else place ++ [part]
      match folder.at? next, rest with
      | some (some _), _ :: _ => .error .notDirectory
      | none, _ :: _ => .error .notFound
      | _, rest => walk folder next rest

/-- The place that a path leads to, and what is there. -/
def find (folder : Folder) (path : String) :
    Except IoFault (List String × Option (Option (List UInt8))) :=
  if path.toList.contains '\x00' then .error .nulInName
  else if path = "" then .error .notFound
  else if maxPath < path.utf8ByteSize then .error .nameTooLong
  else if path.toList.head? = some '/' then
    if parts path = [] then .ok ([], some none) else .error .notFound
  else folder.walk [] (parts path)

/-- Whether a path can only mean a directory. -/
def meansDirectory (path : String) : Bool :=
  match (Path.split path.toList).getLast? with
  | some part => part = [] || part = ['.']
  | none => false

/-- The content of a file. -/
def read (folder : Folder) (path : String) : Except IoFault (List UInt8) :=
  match folder.find path with
  | .error fault => .error fault
  | .ok (_, none) => .error .notFound
  | .ok (_, some none) => .error .isDirectory
  | .ok (_, some (some content)) =>
    if meansDirectory path then .error .notDirectory else .ok content

/-- Write a file, in the place of one that may be there. -/
def write (folder : Folder) (path : String) (content : List UInt8) : Except IoFault Folder :=
  match folder.find path with
  | .error fault => .error fault
  | .ok (_, some none) => .error .isDirectory
  | .ok (place, found) =>
    if meansDirectory path then
      .error (if found = none then .isDirectory else .notDirectory)
    else .ok ⟨(place, some content) :: folder.entries.filter fun entry => entry.1 ≠ place⟩

end Folder
end StreamMask
