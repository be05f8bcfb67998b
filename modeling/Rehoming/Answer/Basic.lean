import Rehoming.Collection.Dictionary
import Rehoming.Number.Double
import Rehoming.Text.Blank
import Rehoming.Text.Substring
/-!
# Answers

What an applicant fills into the form: truth values, numbers, texts, lists of choices, and
groups of answers under keys of their own.  Groups and the whole set of answers are
dictionaries.
-/

namespace Rehoming

/-- An answer to a question. -/
inductive Answer where
  | boolean (b : Bool)
  | number (x : Double)
  | text (s : String)
  | choices (l : List String)
  | group (members : List (String × Answer))
  deriving Inhabited

/-- Answers under their keys. -/
abbrev Answers := List (String × Answer)

namespace Answer

/-- The text of an answer that is one. -/
def asText : Answer → Option String
  | text s => some s
  | _ => none

/-- Whether an answer says nothing. -/
def isBlank : Answer → Bool
  | text s => Text.isBlank s
  | choices l => l.isEmpty
  | group members => members.isEmpty
  | boolean _ | number _ => false

/-- The text of a member of a group. -/
def field (a : Answer) (key : String) : Option String :=
  match a with
  | group members => (Dictionary.get? key members).bind asText
  | _ => none

mutual

/-- Whether two answers are the same; numbers are compared by value. -/
def same : Answer → Answer → Bool
  | boolean a, boolean b => a == b
  | number x, number y => x.sameValue y
  | text s, text t => s == t
  | choices l, choices m => l == m
  | group a, group b => sameMembers a b
  | _, _ => false

/-- Whether two dictionaries hold the same answers under the same keys. -/
def sameMembers : List (String × Answer) → List (String × Answer) → Bool
  | [], [] => true
  | (k, a) :: r, (l, b) :: t => k == l && same a b && sameMembers r t
  | _, _ => false

end

/-- The answer that some keys lead to inside a group. -/
def descend : Answer → List String → Option Answer
  | a, [] => some a
  | group members, key :: r => (Dictionary.get? key members).bind fun a => a.descend r
  | _, _ :: _ => none

end Answer

/-- The answer under a key; a key with dots leads into groups. -/
def Answers.at? (answers : Answers) (key : String) : Option Answer :=
  match Text.split '.' key with
  | [] => none
  | first :: rest => (Dictionary.get? first answers).bind fun a => a.descend rest

end Rehoming
