import Rehoming.Proofs.Reference.Details
/-!
# The forms of contact details

Mail addresses and phone numbers are accepted exactly in their forms.  White space around a mail
address does not count, and neither do the separators of a phone number, wherever they stand: they
may be put in and left out at will.
-/

namespace Rehoming.Contact

open Text

variable {cs ds : List Char} {s t : String}

/-! ### Mail addresses -/

/-- What is accepted as a mail address is one, perhaps with white space around it. -/
theorem isEmail_iff_surrounded :
  isEmail s = true
    ↔ ∃ front address back, s.toList = front ++ address ++ back
      ∧ (∀ c ∈ front ++ back, isWhite c = true) ∧ IsAddress address
  := by
  rw [isEmail_iff]
  constructor
  · intro haddress
    obtain ⟨front, back, heq, hwhite⟩ := exists_eq_append_trimChars s.toList
    exact ⟨front, _, back, heq, hwhite, haddress⟩
  · rintro ⟨front, address, back, heq, hwhite, haddress⟩
    obtain ⟨-, -, -, -, -, -, -, -, hnone⟩ := id haddress
    rw [List.forall_mem_append] at hwhite
    rwa [heq, trimChars_append_right hwhite.2, trimChars_append_left hwhite.1,
      trimChars_of_not_isWhite hnone]

/-! ### Phone numbers -/

/-- The marks that may be put between the digits of a phone number. -/
def separators : List Char :=
  [' ', '-', '(', ')']

/-- The form of a phone number: perhaps a plus sign, a digit from one to nine, and one to fourteen
more digits. -/
def IsPhoneNumber (cs : List Char) : Prop :=
  ∃ sign first rest, cs = sign ++ first :: rest ∧ (sign = [] ∨ sign = ['+'])
    ∧ ('1' ≤ first ∧ first ≤ '9') ∧ (∀ c ∈ rest, '0' ≤ c ∧ c ≤ '9')
    ∧ 1 ≤ rest.length ∧ rest.length ≤ 14

/-- Texts that are the same but for separators, which each of them may have anywhere. -/
inductive Respaced : List Char → List Char → Prop
  | nil : Respaced [] []
  | both (c : Char) {cs ds : List Char} (h : Respaced cs ds) : Respaced (c :: cs) (c :: ds)
  | left {c : Char} (hc : c ∈ separators) {cs ds : List Char} (h : Respaced cs ds) :
      Respaced (c :: cs) ds
  | right {c : Char} (hc : c ∈ separators) {cs ds : List Char} (h : Respaced cs ds) :
      Respaced cs (c :: ds)

theorem isSeparator_iff {c : Char} :
  isSeparator c = true ↔ c ∈ separators
  := by
  simp [isSeparator, separators, or_assoc]

/-- The characters of a phone number that count. -/
theorem filter_separators (cs : List Char) :
  (cs.filter fun c => !isSeparator c) = cs.filter fun c => c ∉ separators
  := by
  apply List.filter_congr
  intro c _
  rw [Bool.eq_iff_iff, Bool.not_eq_true', ← Bool.not_eq_true, isSeparator_iff, decide_eq_true_iff]

theorem isNumber_cons_iff {first : Char} {rest : List Char} :
  isNumber (first :: rest) = true
    ↔ ('1' ≤ first ∧ first ≤ '9') ∧ (∀ c ∈ rest, '0' ≤ c ∧ c ≤ '9')
      ∧ 1 ≤ rest.length ∧ rest.length ≤ 14
  := by
  simp only [isNumber, Bool.and_eq_true, decide_eq_true_iff, List.all_eq_true, and_assoc]

/-- What is accepted as a phone number is one, the separators not counted. -/
theorem isPhone_iff :
  isPhone s = true ↔ IsPhoneNumber (s.toList.filter fun c => c ∉ separators)
  := by
  rw [isPhone, filter_separators]
  generalize (s.toList.filter fun c => c ∉ separators) = cs
  split
  next rest =>
    constructor
    · intro h
      cases rest with
      | nil => cases h
      | cons first rest =>
        exact ⟨['+'], first, rest, rfl, .inr rfl, isNumber_cons_iff.mp h⟩
    · rintro ⟨sign, first, digits, heq, rfl | rfl, h⟩
      · -- The plus sign cannot be the first digit.
        obtain ⟨rfl, -⟩ := List.cons.inj heq
        exact absurd h.1.1 (by decide)
      · obtain ⟨-, rfl⟩ := List.cons.inj heq
        exact isNumber_cons_iff.mpr h
  next hsign =>
    constructor
    · intro h
      cases cs with
      | nil => cases h
      | cons first rest => exact ⟨[], first, rest, rfl, .inl rfl, isNumber_cons_iff.mp h⟩
    · rintro ⟨sign, first, digits, rfl, rfl | rfl, h⟩
      · exact isNumber_cons_iff.mpr h
      · cases hsign _ rfl

/-- Texts that are the same but for separators are the same without them. -/
theorem Respaced.filter_eq (h : Respaced cs ds) :
  (cs.filter fun c => c ∉ separators) = ds.filter fun c => c ∉ separators
  := by
  induction h with
  | nil => rfl
  | both c _ ih => rw [List.filter_cons, List.filter_cons, ih]
  | left hc _ ih => rwa [List.filter_cons_of_neg (by simpa using hc)]
  | right hc _ ih => rwa [List.filter_cons_of_neg (by simpa using hc)]

/-! ### Both forms -/

/-- A text is accepted as a mail address exactly if it has the form of one, with or without white
space around it, and as a phone number exactly if it has the form of one without its separators.
So whether it is a phone number does not depend on the separators. -/
theorem contact_formats_exact :
  (∀ s : String, isEmail s = true
    ↔ ∃ front address back, s.toList = front ++ address ++ back
      ∧ (∀ c ∈ front ++ back, isWhite c = true) ∧ IsAddress address)
  ∧ (∀ s : String, isPhone s = true ↔ IsPhoneNumber (s.toList.filter fun c => c ∉ separators))
  ∧ ∀ s t : String, Respaced s.toList t.toList → isPhone s = isPhone t
  := by
  refine ⟨fun _ => isEmail_iff_surrounded, fun _ => isPhone_iff, ?_⟩
  intro s t hrespaced
  rw [Bool.eq_iff_iff, isPhone_iff, isPhone_iff, hrespaced.filter_eq]

/-- The country code may be set apart in different ways, even from its sign. -/
theorem respaced_phone :
  Respaced "+ 44(0)20".toList "(+44)0-20".toList
  ∧ isPhone "+ 44(0)20" = true ∧ isPhone "(+44)0-20" = true
  := by
  have hrespaced : Respaced "+ 44(0)20".toList "(+44)0-20".toList :=
    .right (by decide) (.both '+' (.left (by decide) (.both '4' (.both '4' (.left (by decide)
      (.right (by decide) (.both '0' (.left (by decide) (.right (by decide) (.both '2' (.both '0'
        .nil)))))))))))
  have hphone : isPhone "+ 44(0)20" = true := by decide
  obtain ⟨-, -, hsame⟩ := contact_formats_exact
  exact ⟨hrespaced, hphone, (hsame _ _ hrespaced).symm.trans hphone⟩

end Rehoming.Contact
