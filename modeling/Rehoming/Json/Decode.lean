import Rehoming.Collection.TextSet
import Rehoming.Json.Basic
import Rehoming.Time.Rfc3339
/-!
# Decoding JSON documents

Decoders for the kinds of values that documents hold, and the written forms of records:
`Shape` tells what the members of a record are and how it is built from them.

A document that is not of the right shape is `mismatched`.  A document whose text stops
being JSON is `unreadable`, if the text was right up to there.  The document is followed in
the order in which it was written, and the first fault counts.
-/

namespace Rehoming.Json

/-- Why a document is refused. -/
inductive DecodeError where
  | unreadable
  | mismatched
  deriving DecidableEq, Repr

/-- A way to get a value from a document. -/
abbrev Decoder (α : Type) := Json → Except DecodeError α

namespace Decoder

/-- Strings. -/
def text : Decoder String
  | .str s => .ok s
  | .flawed _ => .error .unreadable
  | _ => .error .mismatched

/-- Truth values. -/
def bool : Decoder Bool
  | .bool b => .ok b
  | .flawed _ => .error .unreadable
  | _ => .error .mismatched

/-- Integers that are not negative and below a limit. -/
def nat (limit : Nat) : Decoder Nat
  | .int n => if 0 ≤ n ∧ n < limit then .ok n.toNat else .error .mismatched
  | .flawed _ => .error .unreadable
  | _ => .error .mismatched

/-- Numbers, as doubles. -/
def double : Decoder Double
  | .int n => .ok (Double.ofInt n)
  | .real x => .ok x
  | .flawed _ => .error .unreadable
  | _ => .error .mismatched

/-- Timestamps. -/
def instant : Decoder Time.Instant
  | .str s =>
    match Time.Instant.ofText? s with
    | some t => .ok t
    | none => .error .mismatched
  | .flawed _ => .error .unreadable
  | _ => .error .mismatched

/-- A value or null. -/
def option {α : Type} (d : Decoder α) : Decoder (Option α)
  | .null => .ok none
  | j => (d j).map some

/-- The values of some documents. -/
def items {α : Type} (d : Decoder α) : List Json → Except DecodeError (List α)
  | [] => .ok []
  | j :: r => do
    let a ← d j
    let rest ← items d r
    return a :: rest

/-- Arrays. -/
def list {α : Type} (d : Decoder α) : Decoder (List α)
  | .arr js => items d js
  | .flawed _ => .error .unreadable
  | _ => .error .mismatched

/-- Arrays of strings, as sets. -/
def textSet : Decoder TextSet :=
  fun j => (list text j).map TextSet.ofList

/-- One of finitely many values, by its label.  An object with the label as its only key
and null as its value stands for the label. -/
def label {α : Type} (all : List α) (name : α → String) : Decoder α
  | .str s => find s
  | .obj ((_, .flawed .unfitKey) :: _) | .obj ((_, .flawed .brokenKey) :: _) => .error .unreadable
  | .obj ((s, j) :: r) =>
    match find s, j, r with
    | .ok a, .null, [] => .ok a
    | .ok _, .null, _ => .error .unreadable
    | .ok _, .flawed _, _ => .error .unreadable
    | .ok _, _, _ => .error .mismatched
    | .error e, _, _ => .error e
  | _ => .error .unreadable
where
  /-- The value of a label. -/
  find (s : String) : Except DecodeError α :=
    match all.find? fun a => name a = s with
    | some a => .ok a
    | none => .error .mismatched

/-- A decoder that reads its document to the end before looking at it. -/
def buffered {α : Type} (d : Decoder α) : Decoder α :=
  fun j =>
    if j.isSound then
      match d j with
      | .ok a => .ok a
      | .error _ => .error .mismatched
    else .error .unreadable

end Decoder

mutual

/-- A document in which every object is a dictionary. -/
def settled : Json → Json
  | .arr items => .arr (settledItems items)
  | .obj members => .obj (settledMembers [] members)
  | j => j

/-- Documents in which every object is a dictionary. -/
def settledItems : List Json → List Json
  | [] => []
  | j :: r => settled j :: settledItems r

/-- Some members, put into a dictionary one after the other. -/
def settledMembers (found : List (String × Json)) : List (String × Json) → List (String × Json)
  | [] => found
  | (key, j) :: r => settledMembers (Dictionary.insert key (settled j) found) r

end

/-- Objects with any values, as dictionaries. -/
def Decoder.members : Decoder (List (String × Json))
  | .obj ms => if (Json.obj ms).isSound then .ok (settledMembers [] ms) else .error .unreadable
  | .flawed _ => .error .unreadable
  | _ => .error .mismatched

/-- A member of a record: the keys it goes by, the check of its value, and whether an array
that stands for the record may end before it. -/
structure Slot where
  keys : List String
  check : Json → Option DecodeError
  mayLack : Bool

/-- The written form of a record: its members, and how they make up the record.  The values
are given in the order of the members, with `none` for a member that is absent. -/
structure Shape (α : Type) where
  slots : List Slot
  build : List (Option Json) → Except DecodeError (α × List (Option Json))

namespace Shape

/-- The fault of a document for a decoder. -/
def faultOf {α : Type} (d : Decoder α) (j : Json) : Option DecodeError :=
  match d j with
  | .ok _ => none
  | .error e => some e

/-- A record of one member. -/
def member {α : Type} (keys : List String) (d : Decoder α) (mayLack : Bool)
    (absent : Except DecodeError α) : Shape α where
  slots := [⟨keys, faultOf d, mayLack⟩]
  build
    | some j :: r => (d j).map fun a => (a, r)
    | none :: r => absent.map fun a => (a, r)
    | [] => absent.map fun a => (a, [])

/-- A member that must be there. -/
def required {α : Type} (key : String) (d : Decoder α) : Shape α :=
  member [key] d false (.error .mismatched)

/-- A member that may be null, or absent from an object. -/
def nullable {α : Type} (key : String) (d : Decoder α) : Shape (Option α) :=
  member [key] (.option d) false (.ok none)

/-- A member that may be null or absent. -/
def optional {α : Type} (key : String) (d : Decoder α) : Shape (Option α) :=
  member [key] (.option d) true (.ok none)

/-- A member that may be null or absent and goes by several keys. -/
def optionalUnder {α : Type} (keys : List String) (d : Decoder α) : Shape (Option α) :=
  member keys (.option d) true (.ok none)

/-- A member that may be absent. -/
def default {α : Type} (key : String) (d : Decoder α) (value : α) : Shape α :=
  member [key] d true (.ok value)

instance : Functor Shape where
  map f s := ⟨s.slots, fun js => (s.build js).map fun (a, r) => (f a, r)⟩

instance : Seq Shape where
  seq f s :=
    { slots := f.slots ++ (s ()).slots
      build := fun js => do
        let (g, js) ← f.build js
        let (a, js) ← (s ()).build js
        return (g a, js) }

/-- The first fault of the members of an object.  A known key may come once; a value of an
unknown key is passed over. -/
def memberFault (slots : List Slot) (seen : List Nat) : List (String × Json) → Option DecodeError
  | [] => none
  | (key, j) :: r =>
    match slots.findIdx? fun slot => slot.keys.contains key, j with
    | none, .flawed .unfitKey => some .unreadable
    | none, j => if j.isSkippable then memberFault slots seen r else some .unreadable
    | some i, j =>
      if seen.contains i then some .mismatched
      else
        match (slots[i]?).bind fun slot => slot.check j with
        | some e => some e
        | none => memberFault slots (i :: seen) r

/-- The first fault of an array that stands for a record. -/
def itemFault : List Slot → List Json → Option DecodeError
  | [], [] => none
  | [], _ :: _ => some .unreadable
  | slot :: slots, [] => if slot.mayLack then itemFault slots [] else some .mismatched
  | slot :: slots, j :: r =>
    match slot.check j with
    | some e => some e
    | none => itemFault slots r

/-- The value of a member of an object. -/
def valueOf (members : List (String × Json)) (slot : Slot) : Option Json :=
  (members.find? fun m => slot.keys.contains m.1).map Prod.snd

/-- The record of a document: an object with the members by their keys, or an array with
the members in order. -/
def decode {α : Type} (s : Shape α) : Decoder α
  | .obj members =>
    match memberFault s.slots [] members with
    | some e => .error e
    | none => (s.build (s.slots.map (valueOf members))).map Prod.fst
  | .arr js =>
    match itemFault s.slots js with
    | some e => .error e
    | none => (s.build (js.map some)).map Prod.fst
  | .flawed _ => .error .unreadable
  | _ => .error .mismatched

end Shape

end Rehoming.Json
