import Rehoming.Text.Ascii
import Rehoming.Text.Substring
/-!
# Media types

Whether the value of a content type announces JSON: a type and a subtype, both tokens, then
parameters.  JSON is announced by `application/json` and by the suffix `+json`, in any case.
-/

namespace Rehoming.Http

/-- Whether a character may stand in a token. -/
def isTokenChar (c : Char) : Bool :=
  c.isAlphanum || "!#$%&'*+-.^_\x60|~".toList.contains c

/-- Whether a text is a token. -/
def isToken (s : String) : Bool :=
  s ≠ "" && s.toList.all isTokenChar

/-- Whether a character may stand in a quoted value. -/
def isQuotedChar (c : Char) : Bool :=
  0x1F < c.toNat && c.toNat ≠ 0x7F

/-- A subtype as what stands before its last plus sign, and the suffix behind it. -/
def splitSuffix (cs : List Char) : List Char × Option (List Char) :=
  let suffix := (cs.reverse.takeWhile (· ≠ '+')).reverse
  let stem := cs.take (cs.length - suffix.length - 1)
  if suffix.length < cs.length && !stem.isEmpty then (stem, some suffix) else (cs, none)

/-- What follows a quoted value behind its opening quote, and the blanks behind the value.  The
value is not empty, and a quote that begins it belongs to it. -/
def afterQuoted? : List Char → Option (List Char)
  | [] => none
  | c :: r =>
    match r.dropWhile fun c => c ≠ '"' && isQuotedChar c with
    | '"' :: rest => if isQuotedChar c then some (rest.dropWhile (· = ' ')) else none
    | _ => none

/-- What follows the value of a parameter.  A value without quotes may be empty only at the
end. -/
def afterValue? : List Char → Option (List Char)
  | '"' :: r => afterQuoted? r
  | cs =>
    match cs.dropWhile isTokenChar with
    | [] => some []
    | r => if r.length < cs.length then some r else none

/-- Whether the parameters behind a semicolon are well formed.  Every one is read off the
front, so that the fuel of one step for each character is enough. -/
def parametersOk : Nat → List Char → Bool
  | 0, _ => false
  | _ + 1, [] => true
  | fuel + 1, ' ' :: r => parametersOk fuel r
  | fuel + 1, cs =>
    let name := cs.takeWhile isTokenChar
    match cs.drop name.length with
    | '=' :: r =>
      match afterValue? r with
      | some [] => !name.isEmpty
      | some (';' :: rest) => !name.isEmpty && parametersOk fuel rest
      | _ => false
    | _ => false

/-- Whether a content type announces JSON. -/
def announcesJson (value : String) : Bool :=
  let cs := value.toList
  match Text.cutChars '/' cs with
  | (_, none) => false
  | (type, some r) =>
    let subtype := r.takeWhile isTokenChar
    let tail := r.drop subtype.length
    let tailOk := match tail with
      | [] => true
      | ';' :: parameters => !subtype.isEmpty && parametersOk (parameters.length + 1) parameters
      | _ => false
    let (stem, suffix) := splitSuffix (subtype.map Char.toLower)
    type.all isTokenChar && tailOk && type.map Char.toLower == "application".toList
      && (stem == "json".toList || suffix == some "json".toList)

end Rehoming.Http
