import Overseer.Host.FileSystem

/-!
# The search for programs

A command names a program by a path, if there is a slash in it, and otherwise by a name that is
searched for in a list of directories.

* `Search.programAt` -- the program at a path;
* `Search.along` -- the program with a name in the first directory that has it.  The search ends at
  a failure that says nothing about one directory; a program that may not be run is remembered.
-/

namespace Overseer.Search

/-- The name of the program at a path, if it can be run. -/
def programAt (files : FileSystem) (directory : Place) (path : String) : Except Errno String :=
  match files.locate directory path with
  | .error (.os e) => .error e
  | .error _ => .error .enoent
  | .ok place =>
    match files.node? place with
    | some .program => .ok (place.getLastD "")
    | some _ => .error .eacces
    | none => .error .enoent

/-- The directories that a list names, divided at its colons. -/
def directoriesOf (list : String) : List String := list.splitOn ":"

/-- The path of a name in a directory; no name of a directory is the directory where one is. -/
def join (directory name : String) : String :=
  if directory = "" then name else directory ++ "/" ++ name

/-- Searches directories for a program.  `goesOn` tells after which failures the search goes on.
Without a program the last failure tells why, unless a program may not be run. -/
def along (files : FileSystem) (directory : Place) (goesOn : Errno → Bool) (name : String)
    (refused : Bool) (last : Errno) : List String → Except Errno String
  | [] => .error (if refused then .eacces else last)
  | place :: rest =>
    if FileSystem.pathLimit ≤ place.utf8ByteSize then
      along files directory goesOn name refused last rest
    else
      match programAt files directory (join place name) with
      | .ok program => .ok program
      | .error e =>
        if goesOn e then along files directory goesOn name (refused || e == .eacces) e rest
        else .error e

end Overseer.Search
