/-!
# ASCII letters

Comparisons that ignore the case of ASCII letters and leave every other character alone.
-/

namespace Rehoming.Text

/-- A text with its ASCII capitals made small. -/
def asciiLowercase (s : String) : String :=
  String.ofList (s.toList.map Char.toLower)

/-- Whether two texts differ at most in the case of ASCII letters. -/
def equalIgnoringAsciiCase (a b : String) : Bool :=
  asciiLowercase a == asciiLowercase b

/-- A text whose first character, if it is an ASCII letter, is a capital. -/
def asciiCapitalized (s : String) : String :=
  match s.toList with
  | [] => ""
  | c :: r => String.ofList (c.toUpper :: r)

end Rehoming.Text
