import Rehoming.Json.Basic
import Rehoming.Number.Shortest
/-!
# Writing JSON

The text of a document, without white space.  Quotes, backslashes and control characters
are escaped and every other character stands for itself; doubles have the fewest digits
that read back, and a point or an exponent.
-/

namespace Rehoming.Json

/-- A hexadecimal digit. -/
def hexDigit (n : Nat) : Char :=
  Char.ofNat (if n < 10 then 48 + n else 87 + n)

/-- The characters that write a character inside a string. -/
def escaped (c : Char) : List Char :=
  if c = '"' then ['\\', '"']
  else if c = '\\' then ['\\', '\\']
  else if c = '\n' then ['\\', 'n']
  else if c = '\r' then ['\\', 'r']
  else if c = '\t' then ['\\', 't']
  else if c.toNat = 8 then ['\\', 'b']
  else if c.toNat = 12 then ['\\', 'f']
  else if c.toNat < 0x20 then ['\\', 'u', '0', '0', hexDigit (c.toNat / 16), hexDigit (c.toNat % 16)]
  else [c]

/-- A string in quotes. -/
def quoted (s : String) : String :=
  String.ofList ('"' :: s.toList.flatMap escaped ++ ['"'])

mutual

/-- A text with that of a document after it. -/
def appendTo (out : String) : Json → String
  | .null => out ++ "null"
  | .bool true => out ++ "true"
  | .bool false => out ++ "false"
  | .int n => out ++ toString n
  | .real x => out ++ x.text
  | .str s => out ++ quoted s
  | .arr items => (appendItems (out ++ "[") true items) ++ "]"
  | .obj members => (appendMembers (out ++ "\x7b") true members) ++ "\x7d"
  | .flawed _ => out ++ "null"

/-- A text with those of some items after it; `first` tells that no item stands before
them. -/
def appendItems (out : String) (first : Bool) : List Json → String
  | [] => out
  | j :: r => appendItems (appendTo (if first then out else out ++ ",") j) false r

/-- A text with those of some members after it; `first` tells that no member stands before
them. -/
def appendMembers (out : String) (first : Bool) : List (String × Json) → String
  | [] => out
  | (key, j) :: r =>
    appendMembers (appendTo ((if first then out else out ++ ",") ++ quoted key ++ ":") j) false r

end

/-- The text of a document. -/
def text (j : Json) : String :=
  appendTo "" j

end Rehoming.Json
