import Rehoming.Answer.Basic
import Rehoming.Json.Decode
/-!
# Answers in JSON

Every kind of answer is a kind of JSON value: a truth value, a number, a string, an array of
strings or an object of answers.  An answer is read to its end before its kind is decided.
-/

namespace Rehoming

open Json (Decoder DecodeError)

namespace Answer

mutual

/-- An answer as a document. -/
def toJson : Answer → Json
  | boolean b => .bool b
  | number x => .real x
  | text s => .str s
  | choices l => Json.strings l
  | group members => .obj (membersToJson members)

/-- Answers under their keys as the members of an object. -/
def membersToJson : List (String × Answer) → List (String × Json)
  | [] => []
  | (key, a) :: r => (key, toJson a) :: membersToJson r

end

mutual

/-- The answer of a document without flaws. -/
def ofSound : Json → Except DecodeError Answer
  | .bool b => .ok (boolean b)
  | .int n => .ok (number (Double.ofInt n))
  | .real x => .ok (number x)
  | .str s => .ok (text s)
  | .arr items => (Decoder.items Decoder.text items).map choices
  | .obj members => (ofMembers [] members).map group
  | .null | .flawed _ => .error .mismatched

/-- The answers of some members, put into a dictionary one after the other. -/
def ofMembers (found : Answers) : List (String × Json) → Except DecodeError Answers
  | [] => .ok found
  | (key, j) :: r =>
    match ofSound j with
    | .ok a => ofMembers (Dictionary.insert key a found) r
    | .error e => .error e

end

/-- The answer of a document. -/
def ofJson : Decoder Answer :=
  Decoder.buffered ofSound

end Answer

namespace Answers

/-- Answers as a document. -/
def toJson (answers : Answers) : Json :=
  .obj (Answer.membersToJson answers)

/-- The answers of some members, put into a dictionary one after the other. -/
def collect (found : Answers) : List (String × Json) → Except DecodeError Answers
  | [] => .ok found
  | (key, j) :: r => do
    let a ← Answer.ofJson j
    collect (Dictionary.insert key a found) r

/-- The answers of a document. -/
def ofJson : Decoder Answers
  | .obj members => collect [] members
  | .flawed _ => .error .unreadable
  | _ => .error .mismatched

end Answers

end Rehoming
