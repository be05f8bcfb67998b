import Rehoming.Text.Substring
import Rehoming.Text.Utf8
import Rehoming.Number.Natural
/-!
# Targets of requests

A target is a path and, behind a question mark, a query; what follows a hash sign does not
count.  A host may be named in front of the path, with a scheme, and a target may be a host
alone or an asterisk.

In the path and in the query, a percent sign and two hexadecimal digits stand for a byte; a
percent sign without them stands for itself.  A query is a list of names and values, in which
a plus sign stands for a space.
-/

namespace Rehoming.Http

/-- What a request is directed to. -/
structure Target where
  path : String
  query : String
  deriving DecidableEq, Repr

namespace Target

/-- Whether a character lies between two others. -/
def isWithin (first last c : Char) : Bool :=
  first ≤ c && c ≤ last

/-- Whether a character may stand in a path.  Those beyond ASCII may. -/
def isPathChar (c : Char) : Bool :=
  c = '!' || c = '"' || isWithin '$' ';' c || c = '=' || isWithin '@' '_' c
    || isWithin 'a' '~' c || 0x7F < c.toNat

/-- Whether a character may stand in a query.  Those beyond ASCII may. -/
def isQueryChar (c : Char) : Bool :=
  c = '!' || isWithin '$' ';' c || c = '=' || isWithin '?' '~' c || 0x7F < c.toNat

/-- Whether a character ends the name of a host. -/
def endsHost (c : Char) : Bool :=
  c = '/' || c = '?' || c = '#'

/-- Whether a character may stand in a scheme. -/
def isSchemeChar (c : Char) : Bool :=
  c.isAlphanum || "+-.~".toList.contains c

/-- Whether a character may stand in the name of a host without any meaning of its own. -/
def isHostChar (c : Char) : Bool :=
  c.isAlphanum || "!$&'()*+,-.;=_~".toList.contains c

/-- What has been seen of a host: the colons and the percent sign since the last mark that
forgives them, the brackets, and whether the last character is an at sign. -/
structure Host where
  colons : Nat := 0
  opened : Bool := false
  closed : Bool := false
  percent : Bool := false
  atSign : Bool := false

/-- What has been seen after one more character. -/
def Host.next (h : Host) (c : Char) : Option Host :=
  let h := { h with atSign := c = '@' }
  match c with
  | ':' => if h.colons < 8 then some { h with colons := h.colons + 1 } else none
  | '[' => if h.percent || h.opened then none else some { h with opened := true }
  | ']' =>
    if !h.opened || h.closed then none
    else some { h with closed := true, colons := 0, percent := false }
  | '@' => some { h with colons := 0, percent := false }
  | '%' => some { h with percent := true }
  | c => if isHostChar c then some h else none

/-- Whether some characters name a host, perhaps with a user in front and a port behind.  A
user may have percent signs and colons, and an address in brackets has colons. -/
def isHost (cs : List Char) : Bool :=
  match cs.foldlM Host.next {} with
  | some h => !cs.isEmpty && h.opened == h.closed && h.colons ≤ 1 && !h.percent && !h.atSign
  | none => false

/-- The path and the query of some characters that name no host. -/
def local? (cs : List Char) : Option Target :=
  let (path, query) := Text.cutChars '?' (cs.takeWhile (· ≠ '#'))
  let query := query.getD []
  if path.all isPathChar && query.all isQueryChar then
    some ⟨String.ofList path, String.ofList query⟩
  else none

/-- The path and the query behind the name of a host.  An empty path is that of the root. -/
def remote? (cs : List Char) : Option Target :=
  let host := cs.takeWhile fun c => !endsHost c
  if isHost host then
    (local? (cs.drop host.length)).map fun t => if t.path = "" then { t with path := "/" } else t
  else none

/-- How long a target may be, in bytes. -/
def lengthLimit : Nat := 65534

/-- How long a scheme may be. -/
def schemeLimit : Nat := 64

/-- The target of a text. -/
def ofText? (s : String) : Option Target :=
  let cs := s.toList
  let scheme := cs.takeWhile isSchemeChar
  if lengthLimit < s.utf8ByteSize then none
  else match cs, cs.drop scheme.length with
    | '/' :: _, _ => local? cs
    | ['*'], _ => some ⟨"*", ""⟩
    | _, ':' :: '/' :: '/' :: r => if scheme.length ≤ schemeLimit then remote? r else none
    | _, _ => if isHost cs then some ⟨"", ""⟩ else none

end Target

/-- The value of a hexadecimal digit, as a byte. -/
def hexValue? (b : UInt8) : Option UInt8 :=
  if 0x30 ≤ b && b ≤ 0x39 then some (b - 0x30)
  else if 0x41 ≤ b && b ≤ 0x46 then some (b - 0x41 + 10)
  else if 0x61 ≤ b && b ≤ 0x66 then some (b - 0x61 + 10)
  else none

/-- Bytes with their percent signs read. -/
def percentDecoded : List UInt8 → List UInt8
  | [] => []
  | 0x25 :: h :: l :: r =>
    match hexValue? h, hexValue? l with
    | some h, some l => (h * 16 + l) :: percentDecoded r
    | _, _ => 0x25 :: percentDecoded (h :: l :: r)
  | b :: r => b :: percentDecoded r

/-- A part of a path, if its bytes are a text. -/
def pathText? (part : String) : Option String :=
  Text.Utf8.text? (percentDecoded (Text.Utf8.bytes part))

/-- A name or a value of a query. -/
def formText (part : String) : String :=
  Text.Utf8.textWithReplacements
    (percentDecoded ((Text.Utf8.bytes part).map fun b => if b = 0x2B then 0x20 else b))

/-- The names and values of a query. -/
def formPairs (query : String) : List (String × String) :=
  ((Text.split '&' query).filter (· ≠ "")).map fun pair =>
    let (name, value) := Text.cut '=' pair
    (formText name, formText (value.getD ""))

/-- The value of a name in a query, which may not be repeated. -/
def single? (pairs : List (String × String)) (name : String) : Except Unit (Option String) :=
  match pairs.filter fun p => p.1 = name with
  | [] => .ok none
  | [p] => .ok (some p.2)
  | _ => .error ()

/-- A value that may be missing, read in some way. -/
def readValue? {α : Type} (read : String → Option α) : Option String → Except Unit (Option α)
  | none => .ok none
  | some s =>
    match read s with
    | some a => .ok (some a)
    | none => .error ()

/-- A truth value of a query. -/
def truth? (s : String) : Option Bool :=
  if s = "true" then some true else if s = "false" then some false else none

end Rehoming.Http
