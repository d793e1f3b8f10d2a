import GridCircuit.Text.Hidden

/-!
# Quoted texts

A text in double quotes, in which quotes, backslashes, line ends, tabs and zero characters have
short escapes and every hidden character is written by its number.
-/

namespace GridCircuit.Text

/-- The hexadecimal digits of a number, in lower case. -/
def hexadecimal (n : Nat) : String := String.ofList (Nat.toDigits 16 n)

/-- A character as a quoted text shows it. -/
def escapeQuoted (c : Char) : String :=
  if c = '"' then "\\\""
  else if c = '\\' then "\\\\"
  else if c = '\n' then "\\n"
  else if c = '\r' then "\\r"
  else if c = '\t' then "\\t"
  else if c.toNat = 0 then "\\0"
  else if isHidden c then "\\u\x7b" ++ hexadecimal c.toNat ++ "\x7d"
  else c.toString

/-- A text in double quotes. -/
def quoted (text : String) : String :=
  "\"" ++ String.join (text.toList.map escapeQuoted) ++ "\""

end GridCircuit.Text
