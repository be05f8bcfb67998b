/-!
# Parts of a text

Whether one text occurs in another, and the pieces of a text between separators.
-/

namespace Rehoming.Text

/-- Whether `needle` is a run of consecutive items of a list. -/
def occursIn (needle : List Char) : List Char → Bool
  | [] => needle.isEmpty
  | c :: r => needle.isPrefixOf (c :: r) || occursIn needle r

/-- Whether `needle` occurs in `s`. -/
def contains (s needle : String) : Bool :=
  occursIn needle.toList s.toList

/-- The pieces of a list of characters between separators; there is always at least one. -/
def splitChars (sep : Char) : List Char → List (List Char)
  | [] => [[]]
  | c :: r =>
    if c = sep then [] :: splitChars sep r
    else match splitChars sep r with
      | [] => [[c]]
      | piece :: rest => (c :: piece) :: rest

/-- The pieces of a text between separators; there is always at least one. -/
def split (sep : Char) (s : String) : List String :=
  (splitChars sep s.toList).map String.ofList

/-- What stands before the first separator and what stands after it, if there is one. -/
def cutChars (sep : Char) : List Char → List Char × Option (List Char)
  | [] => ([], none)
  | c :: r =>
    if c = sep then ([], some r)
    else let (before, after) := cutChars sep r; (c :: before, after)

/-- What stands before the first separator and what stands after it, if there is one. -/
def cut (sep : Char) (s : String) : String × Option String :=
  let (before, after) := cutChars sep s.toList
  (String.ofList before, after.map String.ofList)

/-- The texts of a list with a separator between each two. -/
def join (sep : String) : List String → String
  | [] => ""
  | [s] => s
  | s :: rest => s ++ sep ++ join sep rest

theorem occursIn_iff {needle cs : List Char} : occursIn needle cs = true ↔ needle <:+: cs := by
  induction cs with
  | nil => simp [occursIn]
  | cons c r ih =>
    simp only [occursIn, Bool.or_eq_true, List.isPrefixOf_iff_prefix, ih, List.infix_cons_iff]

theorem splitChars_ne_nil (sep : Char) (cs : List Char) : splitChars sep cs ≠ [] := by
  cases cs with
  | nil => simp [splitChars]
  | cons c r =>
    simp only [splitChars]
    split
    · simp
    · split <;> simp

end Rehoming.Text
