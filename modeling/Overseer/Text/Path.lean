/-!
# Paths

A path is a text in which slashes divide the names.  Repeated slashes count once, a trailing slash
does not count, and a dot stands for where one is.

* `Path.names` -- the names that count, the leading dot included;
* `Path.fileName?` -- the last name, unless it is a dot or two;
* `Path.extension` -- what follows the last dot of the last name.  A name that begins with its only
  dot has none.
-/

namespace Overseer.Path

/-- Divides a text at every slash. -/
def pieces (path : String) : List String :=
  (path.toList.splitOn '/').map String.ofList

/-- The names that count.  A dot counts only at the beginning of a relative path. -/
def names (path : String) : List String :=
  match pieces path with
  | "." :: rest => "." :: rest.filter fun name => name != "" && name != "."
  | all => all.filter fun name => name != "" && name != "."

/-- The last name, if it names a file. -/
def fileName? (path : String) : Option String :=
  match (names path).getLast? with
  | some name => if name = "." || name = ".." then none else some name
  | none => none

/-- The part of a name after its last dot, if something stands before that dot. -/
def afterLastDot (name : List Char) : Option (List Char) :=
  let reversed := name.reverse
  let after := reversed.takeWhile (· != '.')
  match reversed.dropWhile (· != '.') with
  | _ :: _ :: _ => some after.reverse
  | _ => none

/-- The extension of the file name; empty when there is none. -/
def extension (path : String) : String :=
  match fileName? path with
  | some name => String.ofList ((afterLastDot name.toList).getD [])
  | none => ""

end Overseer.Path
