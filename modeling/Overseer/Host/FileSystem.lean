import Overseer.Error
import Overseer.Text.Path

/-!
# File systems

A file system is a tree of directories, files and devices.  A place in it is the list of names that
lead there from the root; every place is listed with what is there.

* `FileSystem.locate` -- the place that a path leads to from a directory, whether or not something
  is there; on the way every name has to be a directory;
* `FileSystem.contents`, `FileSystem.isDirectory` -- looking at what is there;
* `FileSystem.openForAppending`, `FileSystem.append` -- writing at the end of a file.
-/

namespace Overseer

/-- What is at a place. -/
inductive Node where
  | directory
  | file (content : ByteArray)
  /-- A file that can be run. -/
  | program
  /-- A device that swallows what is written to it, and is empty. -/
  | device

/-- The names that lead to a place from the root. -/
abbrev Place := List String

/-- A tree of directories, files and devices. -/
structure FileSystem where
  nodes : List (Place × Node)

namespace FileSystem

/-- The longest name, in bytes. -/
def maxName : Nat := 255

/-- Paths are shorter than this, in bytes. -/
def pathLimit : Nat := 4096

/-- What is at a place. -/
def node? (fs : FileSystem) (place : Place) : Option Node :=
  if place = [] then some .directory else fs.nodes.lookup place

/-- Puts something at a place. -/
def put (fs : FileSystem) (place : Place) (node : Node) : FileSystem :=
  ⟨(place, node) :: fs.nodes.filter (·.1 != place)⟩

/-- Takes away what is at a place. -/
def remove (fs : FileSystem) (place : Place) : FileSystem :=
  ⟨fs.nodes.filter (·.1 != place)⟩

/-- Puts something at a place, and directories wherever they are missing on the way. -/
def putBelow (fs : FileSystem) (base : Place) : List String → Node → FileSystem
  | [], node => fs.put base node
  | name :: rest, node =>
    let fs := if (fs.node? base).isSome then fs else fs.put base .directory
    putBelow fs (base ++ [name]) rest node

/-- Whether one may go on from a place. -/
def checkDirectory (fs : FileSystem) (place : Place) : Except Errno Unit :=
  match fs.node? place with
  | some .directory => .ok ()
  | some _ => .error .enotdir
  | none => .error .enoent

/-- Follows names from a place. -/
def walk (fs : FileSystem) : Place → List String → Except Errno Place
  | place, [] => .ok place
  | place, name :: rest => do
    fs.checkDirectory place
    if name = "" || name = "." then walk fs place rest
    else if name = ".." then walk fs place.dropLast rest
    else if maxName < name.utf8ByteSize then .error .enametoolong
    else walk fs (place ++ [name]) rest

/-- Whether a text can be a path at all. -/
def checkPath (path : String) : Except IoError Unit :=
  if path.contains '\x00' then
    .error (.invalidInput "file name contained an unexpected NUL byte")
  else if path = "" then .error (.os .enoent)
  else if pathLimit ≤ path.utf8ByteSize then .error (.os .enametoolong)
  else .ok ()

/-- The place that a path leads to. -/
def locate (fs : FileSystem) (base : Place) (path : String) : Except IoError Place := do
  checkPath path
  let start := if path.startsWith "/" then [] else base
  (fs.walk start (Path.pieces path)).mapError .os

/-- What a path leads to. -/
def nodeAt? (fs : FileSystem) (base : Place) (path : String) : Option Node :=
  match fs.locate base path with
  | .ok place => fs.node? place
  | .error _ => none

/-- The names in a directory. -/
def namesIn (fs : FileSystem) (directory : Place) : List String :=
  fs.nodes.filterMap fun (place, _) =>
    match place.getLast? with
    | some name => if place.dropLast = directory then some name else none
    | none => none

/-- The bytes of a file. -/
def contents (fs : FileSystem) (base : Place) (path : String) : Except IoError ByteArray := do
  let place ← fs.locate base path
  match fs.node? place with
  | none => .error (.os .enoent)
  | some .directory => .error (.os .eisdir)
  | some (.file content) => .ok content
  | some .program | some .device => .ok .empty

/-- Whether a path leads to a directory. -/
def isDirectory (fs : FileSystem) (base : Place) (path : String) : Bool :=
  match fs.nodeAt? base path with
  | some .directory => true
  | _ => false

/-- A path that ends in slashes and names something before them, without that name and the
slashes. -/
def beforeSlashedName? (path : String) : Option String :=
  let reversed := path.toList.reverse
  let stem := reversed.dropWhile (· == '/')
  let name := stem.takeWhile (· != '/')
  if reversed.head? != some '/' || name = [] || name = ['.'] || name = ['.', '.'] then none
  else some (String.ofList (stem.dropWhile (· != '/')).reverse)

/-- Opens a file to be written at its end, and creates it if it is not there.  A name with a slash
after it can only be a directory's. -/
def openForAppending (fs : FileSystem) (base : Place) (path : String) :
    Except IoError (Place × FileSystem) := do
  checkPath path
  match beforeSlashedName? path with
  | some parent =>
    let place ← if parent = "" then pure base else fs.locate base parent
    (fs.checkDirectory place).mapError .os
    throw (.os .eisdir)
  | none => pure ()
  let place ← fs.locate base path
  match fs.node? place with
  | some .directory => .error (.os .eisdir)
  | some _ => .ok (place, fs)
  | none => .ok (place, fs.put place (.file .empty))

/-- Writes at the end of a file.  What is written anywhere else is lost. -/
def append (fs : FileSystem) (place : Place) (bytes : ByteArray) : FileSystem :=
  match fs.node? place with
  | some (.file content) => fs.put place (.file (content ++ bytes))
  | _ => fs

/-- Places as a path. -/
def pathOf (place : Place) : String := "/" ++ "/".intercalate place

end FileSystem

end Overseer
