import TunnelRelay.OsError
import TunnelRelay.Text.Blank
import TunnelRelay.Text.Utf8
/-!
# Paths

How a path leads through the directories of a machine to a file. Of the machine only the working
directory with what is in it is known, and besides it a few directories and files that every
system has.
-/

namespace TunnelRelay.Host

/-- The name of one step of a path. -/
abbrev Name := List Char

/-- The files of a machine. -/
structure Files where
  /-- The files in the working directory and below, each with the names that lead to it. -/
  working : List (List Name × List UInt8)

/-- Where a path has led so far. -/
inductive Place where
  /-- A directory: the working directory or one below it. -/
  | below (names : List Name)
  /-- A directory above the working directory. -/
  | above
  /-- The root directory or one of those below it that every system has. -/
  | system (names : List Name)
  | file (bytes : List UInt8)

namespace Files

/-- The greatest number of bytes of a path. -/
def greatestPath : Nat := 4095

/-- The greatest number of bytes of a name. -/
def greatestName : Nat := 255

/-- The number of bytes of a text. -/
def size (cs : List Char) : Nat := (Text.Utf8.encode cs).length

/-- Directories that every system has. -/
def systemDirectories : List String :=
  ["bin", "dev", "etc", "home", "lib", "proc", "root", "sbin", "sys", "tmp", "usr", "var"]

/-- The directory or file of this name in a directory. -/
def enter (files : Files) (name : Name) : Place → Except OsError Place
  | .file _ => .error .notDirectory
  | .above => .error .noEntry
  | .below names =>
    let names := names ++ [name]
    match files.working.lookup names with
    | some bytes => .ok (.file bytes)
    | none =>
      if files.working.any fun f => names.isPrefixOf f.1 then .ok (.below names)
      else .error .noEntry
  | .system [] =>
    if systemDirectories.contains (String.ofList name) then .ok (.system [name])
    else .error .noEntry
  | .system names =>
    if names ++ [name] = ["dev".toList, "null".toList] then .ok (.file []) else .error .noEntry

/-- The directory around a directory. -/
def leave : Place → Except OsError Place
  | .file _ => .error .notDirectory
  | .above => .ok .above
  | .below names => .ok (if names.isEmpty then .above else .below names.dropLast)
  | .system names => .ok (.system names.dropLast)

/-- One step of a path. An empty name and a point stay in a directory; a file leads nowhere. -/
def step (files : Files) (name : Name) (place : Place) : Except OsError Place :=
  match place with
  | .file _ => .error .notDirectory
  | place =>
    if name = [] ∨ name = ['.'] then .ok place
    else if name = ['.', '.'] then leave place
    else if greatestName < size name then .error .nameTooLong
    else files.enter name place

/-- Where a path leads. One that begins with a slash starts at the root. -/
def resolve (files : Files) (path : String) : Except OsError Place :=
  let cs := path.toList
  if cs.isEmpty then .error .noEntry
  else if greatestPath < size cs then .error .nameTooLong
  else
    let start : Place := if cs.head? = some '/' then .system [] else .below []
    (Text.splitAt '/' cs).foldlM (fun place name => files.step name place) start

/-- The bytes of the file that a path leads to. -/
def read (files : Files) (path : String) : Except OsError (List UInt8) := do
  match ← files.resolve path with
  | .file bytes => pure bytes
  | _ => .error .isDirectory

end Files

end TunnelRelay.Host
