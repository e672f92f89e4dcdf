import Overseer.Text.Shapeless

/-!
# Quoted texts

`quoted` writes a text so that it can be told where it begins and ends and what is in it: between
double quotes, with a backslash before quotes and backslashes, the usual letters for the usual
control characters, and the code point in braces of every other character that has no shape.
-/

namespace Overseer.Text

/-- Lower-case hexadecimal digits. -/
def hex (n : Nat) : String := String.ofList (Nat.toDigits 16 n)

/-- One character between quotes. -/
def quotedChar (c : Char) : String :=
  if c = '"' then "\\\""
  else if c = '\\' then "\\\\"
  else if c = '\n' then "\\n"
  else if c = '\r' then "\\r"
  else if c = '\t' then "\\t"
  else if c = '\x00' then "\\0"
  else if c.toNat < 0x20 || c.toNat = 0x7f || (0x7f < c.toNat && shapeless c) then
    "\\u\x7b" ++ hex c.toNat ++ "\x7d"
  else c.toString

/-- A text between quotes. -/
def quoted (s : String) : String :=
  "\"" ++ String.join (s.toList.map quotedChar) ++ "\""

end Overseer.Text
