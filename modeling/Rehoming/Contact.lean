import Rehoming.Text.Blank
import Rehoming.Text.Substring
/-!
# Contact details

The forms of mail addresses and phone numbers that are accepted.
-/

namespace Rehoming.Contact

/-- Whether a domain has a dot with something on both sides. -/
def isDomain (cs : List Char) : Bool :=
  !cs.contains '@' && ((cs.drop 1).dropLast).contains '.'

/-- A mail address, white space at its ends not counted: something before the only `@`, a
domain behind it, and no white space. -/
def isEmail (s : String) : Bool :=
  let cs := Text.trimChars s.toList
  if cs.any Text.isWhite then false
  else
    match Text.cutChars '@' cs with
    | ([], _) => false
    | (_, none) => false
    | (_, some domain) => isDomain domain

/-- The marks that may be put between the digits of a phone number. -/
def isSeparator (c : Char) : Bool :=
  c = ' ' || c = '-' || c = '(' || c = ')'

/-- Two to fifteen digits, the first of them not zero. -/
def isNumber : List Char → Bool
  | [] => false
  | c :: r => '1' ≤ c && c ≤ '9' && r.all (fun d => '0' ≤ d && d ≤ '9')
      && 1 ≤ r.length && r.length ≤ 14

/-- A phone number, separators not counted: digits after an optional plus sign. -/
def isPhone (s : String) : Bool :=
  match s.toList.filter fun c => !isSeparator c with
  | '+' :: r => isNumber r
  | cs => isNumber cs

end Rehoming.Contact
