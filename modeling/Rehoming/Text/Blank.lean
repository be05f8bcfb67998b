/-!
# White space

The characters with the Unicode property White_Space, and the three things the workflow
asks of a text with them: its trimmed form, whether it is blank, and its trimmed form if
it is not blank.  A text is blank exactly when its trimmed form is empty.
-/

namespace Rehoming.Text

/-- The characters with the Unicode property White_Space. -/
def isWhite (c : Char) : Bool :=
  let n := c.toNat
  (9 ≤ n && n ≤ 13) || n == 0x20 || n == 0x85 || n == 0xA0 || n == 0x1680
    || (0x2000 ≤ n && n ≤ 0x200A) || n == 0x2028 || n == 0x2029 || n == 0x202F
    || n == 0x205F || n == 0x3000

/-- A list of characters without the white space at its front. -/
def trimFront (cs : List Char) : List Char :=
  cs.dropWhile isWhite

/-- A list of characters without the white space at either end. -/
def trimChars (cs : List Char) : List Char :=
  (trimFront (trimFront cs).reverse).reverse

/-- A text without the white space at either end. -/
def trim (s : String) : String :=
  String.ofList (trimChars s.toList)

/-- Whether a text holds nothing but white space. -/
def isBlank (s : String) : Bool :=
  s.toList.all isWhite

/-- The trimmed form of a text that is present and not blank. -/
def nonBlank : Option String → Option String
  | none => none
  | some s => if isBlank s then none else some (trim s)

theorem dropWhile_eq_nil_iff {p : Char → Bool} {cs : List Char} :
  cs.dropWhile p = [] ↔ cs.all p = true
  := by
  induction cs with
  | nil => simp
  | cons c r ih => by_cases h : p c = true <;> simp_all [List.dropWhile]

theorem all_dropWhile (p : Char → Bool) (cs : List Char) :
  (cs.dropWhile p).all p = cs.all p
  := by
  induction cs with
  | nil => rfl
  | cons c r ih => by_cases h : p c = true <;> simp_all [List.dropWhile]

theorem trimChars_eq_nil_iff {cs : List Char} : trimChars cs = [] ↔ cs.all isWhite = true := by
  rw [← all_dropWhile isWhite cs]
  simp only [trimChars, trimFront, List.reverse_eq_nil_iff, dropWhile_eq_nil_iff, List.all_reverse]

/-- A text is blank exactly when nothing is left of it after trimming. -/
theorem isBlank_iff {s : String} : isBlank s = true ↔ trim s = "" := by
  rw [isBlank, trim, ← trimChars_eq_nil_iff]
  constructor
  · intro h
    rw [h]
  · intro h
    simpa using congrArg String.toList h

end Rehoming.Text
