/-!
# The host's environment

An environment is a list of variables.  Their values are bytes; `Environment.text?` is a value that
is a text.  A variable is asked for by what stands before an equals sign in the line that sets it,
so that `A=B` asks for the rest of the value of `A` when that begins with `B=`.
-/

namespace Overseer

/-- Variables with their values. -/
structure Environment where
  settings : List (String × ByteArray)

namespace Environment

/-- No variables. -/
def empty : Environment := ⟨[]⟩

/-- The variable that a line sets, unless its name is no text or it has no equals sign. -/
def ofLine? (line : List UInt8) : Option (String × ByteArray) :=
  let sign := "=".toUTF8.toList
  match line.dropWhile (!sign.contains ·) with
  | [] => none
  | _ :: value =>
    let name := line.takeWhile (!sign.contains ·)
    (String.fromUTF8? ⟨name.toArray⟩).map fun name => (name, ⟨value.toArray⟩)

/-- The variables of a block of lines, of which each is followed by a zero. -/
def ofBlock (block : ByteArray) : Environment :=
  ⟨(block.toList.splitOn 0).filterMap ofLine?⟩

/-- The bytes after a beginning, if there is that beginning. -/
def dropBeginning (beginning bytes : List UInt8) : Option (List UInt8) :=
  if beginning.isPrefixOf bytes then some (bytes.drop beginning.length) else none

/-- The line that sets a variable. -/
def line (entry : String × ByteArray) : List UInt8 :=
  entry.1.toUTF8.toList ++ ("=".toUTF8.toList ++ entry.2.toList)

/-- The bytes of a variable.  There is no variable without a name, nor one with a zero in its
name. -/
def bytes? (env : Environment) (name : String) : Option ByteArray :=
  if name = "" || name.contains '\x00' then none
  else
    let beginning := (name ++ "=").toUTF8.toList
    (env.settings.findSome? fun entry => dropBeginning beginning (line entry)).map fun bytes =>
      ⟨bytes.toArray⟩

/-- The value of a variable, if it is a text. -/
def text? (env : Environment) (name : String) : Option String :=
  (env.bytes? name).bind String.fromUTF8?

/-- Sets a variable. -/
def set (env : Environment) (name : String) (value : ByteArray) : Environment :=
  ⟨env.settings.filter (·.1 != name) ++ [(name, value)]⟩

end Environment

end Overseer
