import Rehoming.Number.Double
/-!
# JSON documents

The values of JSON.  A number written without fraction and exponent is an integer if it
fits into 64 bits, and a double otherwise.  An object keeps its members in the order in
which they were written, repeated keys included.

A document read from a text may have flaws: a value that is well formed but cannot be read,
or the place where the text stops being JSON, after which nothing was read.  Where a key has a
flaw, the flaw is the value of a member with the empty key.
-/

namespace Rehoming

/-- What keeps a part of a text from being read as a value. -/
inductive Flaw where
  /-- A number beyond the doubles, a string with half a surrogate pair, or a container nested
  too deep. -/
  | unfit
  /-- The text stops being JSON. -/
  | broken
  /-- A key with half a surrogate pair. -/
  | unfitKey
  /-- The text stops being JSON where a key is expected. -/
  | brokenKey
  deriving DecidableEq, Repr

/-- Whether the text goes on behind a flaw. -/
def Flaw.isPassable : Flaw → Bool
  | unfit | unfitKey => true
  | broken | brokenKey => false

/-- A JSON document. -/
inductive Json where
  | null
  | bool (b : Bool)
  | int (n : Int)
  | real (x : Double)
  | str (s : String)
  | arr (items : List Json)
  | obj (members : List (String × Json))
  | flawed (f : Flaw)
  deriving Inhabited

namespace Json

mutual

/-- Whether a document has a flaw of some kind. -/
def hasFlaw (kind : Flaw → Bool) : Json → Bool
  | .flawed f => kind f
  | .arr items => itemsHaveFlaw kind items
  | .obj members => membersHaveFlaw kind members
  | _ => false

/-- Whether one of some documents has a flaw of some kind. -/
def itemsHaveFlaw (kind : Flaw → Bool) : List Json → Bool
  | [] => false
  | j :: r => hasFlaw kind j || itemsHaveFlaw kind r

/-- Whether the value of one of some members has a flaw of some kind. -/
def membersHaveFlaw (kind : Flaw → Bool) : List (String × Json) → Bool
  | [] => false
  | (_, j) :: r => hasFlaw kind j || membersHaveFlaw kind r

end

/-- Whether a document has no flaw at all. -/
def isSound (j : Json) : Bool :=
  !j.hasFlaw fun _ => true

/-- Whether the text of a document goes on after it, so that the document can be passed
over. -/
def isSkippable (j : Json) : Bool :=
  !j.hasFlaw fun f => !f.isPassable

/-- The value of a key of an object. -/
def get? (j : Json) (key : String) : Option Json :=
  match j with
  | .obj members => (members.find? fun m => m.1 = key).map Prod.snd
  | _ => none

/-- A natural number as a document. -/
def nat (n : Nat) : Json :=
  .int n

/-- A document or null. -/
def orNull {α : Type} (f : α → Json) : Option α → Json
  | none => .null
  | some a => f a

/-- A member that is left out when it has no value. -/
def optional {α : Type} (key : String) (f : α → Json) : Option α → List (String × Json)
  | none => []
  | some a => [(key, f a)]

/-- A list of strings. -/
def strings (l : List String) : Json :=
  .arr (l.map .str)

end Json

end Rehoming
