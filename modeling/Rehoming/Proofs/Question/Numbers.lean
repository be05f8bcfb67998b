import Rehoming.Proofs.Number.RealText
import Rehoming.Proofs.Number.Rounding
import Rehoming.Question.Registry
/-!
# Answers to questions for a number

A number is accepted if it is finite, and a text if it writes a real number, be it finite or not:
also the words for an infinity and for no number at all are accepted, and the decimal numbers that
are nearer to infinity than to the largest double.  As a number none of these would be.
-/

namespace Rehoming

open Number Text

/-! ### The value of a text -/

namespace Number.Reading

/-- The double nearest to what a text stands for. -/
def toDouble : Reading → Double
  | nan => ⟨0x7FF8000000000000⟩
  | infinite negative => .ofMagnitude negative Double.infinityBits
  | decimal negative digits exponent =>
    .ofRatio negative (Double.decimalRatio digits exponent).1 (Double.decimalRatio digits exponent).2

/-- A finite value: a decimal number below the middle between the largest double and the power of
two behind it. -/
inductive IsFinite : Reading → Prop where
  | decimal {negative : Bool} {digits : Nat} {exponent : Int}
      (hbelow : (digits : ℚ) * 10 ^ exponent < Double.overflow) :
      IsFinite (.decimal negative digits exponent)

/-- The finite values are those whose double is finite. -/
theorem isFinite_toDouble (r : Reading) :
  r.toDouble.isFinite = true ↔ r.IsFinite
  := by
  cases r with
  | nan =>
    refine iff_of_false (by decide) ?_
    rintro ⟨⟩
  | infinite negative =>
    refine iff_of_false ?_ ?_
    · rw [toDouble, Double.isFinite, Double.magnitude_ofMagnitude negative le_rfl]
      simp
    · rintro ⟨⟩
  | decimal negative digits exponent =>
    obtain ⟨hpositive, hratio⟩ := Double.decimalRatio_eq digits exponent
    rw [toDouble, Double.isFinite_ofRatio negative _ hpositive, hratio]
    constructor
    · exact .decimal
    · rintro ⟨hbelow⟩
      exact hbelow

end Number.Reading

/-! ### Accepted answers -/

namespace Answer

/-- A finite number, as such or as a text. -/
inductive IsFiniteNumber : Answer → Prop where
  | number {x : Double} (hfinite : x.isFinite = true) : IsFiniteNumber (.number x)
  | text {s : String} {r : Reading} (hread : RealText (trim s).toList r) (hfinite : r.IsFinite) :
      IsFiniteNumber (.text s)

/-- A text that writes a real number without a finite value. -/
inductive IsBoundlessText : Answer → Prop where
  | text {s : String} {r : Reading} (hread : RealText (trim s).toList r) (hfinite : ¬ r.IsFinite) :
      IsBoundlessText (.text s)

theorem isFiniteNumber_number_iff {x : Double} :
  (number x).IsFiniteNumber ↔ x.isFinite = true
  := by
  constructor
  · intro h
    cases h with
    | number hfinite => exact hfinite
  · exact .number

/-- A text of a real number has a finite value or none. -/
theorem isFiniteNumber_or_isBoundlessText_iff {s : String} :
  (text s).IsFiniteNumber ∨ (text s).IsBoundlessText ↔ ∃ r, RealText (trim s).toList r
  := by
  constructor
  · intro h
    obtain h | h := h
    case inl =>
      cases h with
      | text hread => exact ⟨_, hread⟩
    case inr =>
      cases h with
      | text hread => exact ⟨_, hread⟩
  · rintro ⟨r, hread⟩
    by_cases hfinite : r.IsFinite
    · exact .inl (.text hread hfinite)
    · exact .inr (.text hread hfinite)

end Answer

namespace Question

variable {q : Question} {a : Answer}

theorem issue_of_not_isBlank (h : a.isBlank = false) :
  q.issue (some a) = q.issueOf a
  := by
  rw [issue, if_neg (by simp [h])]

/-- A number is accepted exactly if it is finite. -/
theorem issue_number_eq_none_iff (hkind : q.kind = .number) {x : Double} :
  q.issue (some (.number x)) = none ↔ x.isFinite = true
  := by
  rw [issue_of_not_isBlank rfl]
  simp [issueOf, hkind]

/-- A text is accepted exactly if it writes a real number. -/
theorem issue_text_eq_none_iff (hkind : q.kind = .number) {s : String}
    (hblank : (Answer.text s).isBlank = false) :
  q.issue (some (.text s)) = none ↔ ∃ r, RealText (trim s).toList r
  := by
  rw [issue_of_not_isBlank hblank]
  simp [issueOf, hkind, Option.isSome_iff_exists, reading?_eq_some_iff]

end Question

/-- A question for a number accepts the finite numbers, in either way of writing, and besides them
just the texts of real numbers without a finite value.  Of all the values of texts, it accepts as
numbers those that are finite. -/
theorem number_answers_read {q : Question} (hkind : q.kind = .number) {a : Answer}
    (hblank : a.isBlank = false) :
  (q.issue (some a) = none ↔ a.IsFiniteNumber ∨ a.IsBoundlessText) ∧
    ∀ r : Reading, q.issue (some (.number r.toDouble)) = none ↔ r.IsFinite
  := by
  constructor
  case right =>
    intro r
    rw [Question.issue_number_eq_none_iff hkind, Reading.isFinite_toDouble]
  cases a with
  | number x =>
    have hnot : ¬ (Answer.number x).IsBoundlessText := by rintro ⟨⟩
    rw [Question.issue_number_eq_none_iff hkind, Answer.isFiniteNumber_number_iff, or_iff_left hnot]
  | text s =>
    rw [Question.issue_text_eq_none_iff hkind hblank, Answer.isFiniteNumber_or_isBoundlessText_iff]
  | boolean | choices | group =>
    rw [Question.issue_of_not_isBlank hblank]
    refine iff_of_false (by simp [Question.issueOf, hkind]) ?_
    intro h
    obtain h | h := h <;> cases h

/-! ### The size of a household -/

/-- How many people live in the applicant's household. -/
def Demo.headcount : Question :=
  coreQuestion "household_members" .householdInformation .number
    "How many people live in your household?" 4 true []

/-- A household of four may be written as a text, and counts as the number does. -/
theorem headcount_read :
  Demo.headcount.issue (some (.text " 4.0 ")) = none
    ∧ Demo.headcount.issue (some (.number (Reading.decimal false 40 (-1)).toDouble)) = none
  := by
  have hfour : ((40 : Nat) : ℚ) * 10 ^ (-1 : Int) = 2 ^ (2 : Int) := by norm_num
  have hfinite : (Reading.decimal false 40 (-1)).IsFinite :=
    .decimal (hfour.trans_lt (Double.two_zpow_lt_overflow (by decide)))
  have hread : RealText (trim " 4.0 ").toList (.decimal false 40 (-1)) :=
    reading?_eq_some_iff.mp (by decide)
  obtain ⟨haccepted, hvalue⟩ :=
    number_answers_read (q := Demo.headcount) rfl (a := .text " 4.0 ") (by decide)
  exact ⟨haccepted.mpr (.inl (.text hread hfinite)), (hvalue _).mpr hfinite⟩

/-- A household without end is accepted as a text, though its value is refused as a number. -/
theorem Demo.endless_headcount :
  headcount.issue (some (.text "inf")) = none
    ∧ RealText (trim "inf").toList (.infinite false)
    ∧ headcount.issue (some (.number (Reading.infinite false).toDouble)) = some .invalidNumber
    ∧ ¬ (Answer.text "inf").IsFiniteNumber
  := by
  have hread : reading? (trim "inf") = some (.infinite false) := by decide
  refine ⟨by decide, reading?_eq_some_iff.mp hread, by decide, ?_⟩
  rintro (_ | ⟨hother, hfinite⟩)
  rw [← reading?_eq_some_iff, hread, Option.some.injEq] at hother
  subst hother
  cases hfinite

end Rehoming
