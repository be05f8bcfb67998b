import Rehoming.Contact
import Rehoming.Proofs.Text.Caseless
import Rehoming.Proofs.Text.Pieces
import Rehoming.Proofs.Text.Trim
/-!
# Contact details in their stored form

Contact details are checked as they are given and stored in another form: phone numbers trimmed,
mail addresses trimmed and in lowercase.  What is accepted as it is given is accepted in its
stored form, and storing it again does not change it.
-/

namespace Rehoming.Contact

open Text

variable {cs before after : List Char} {s : String}

/-! ### Mail addresses -/

/-- The form of a mail address: something before the only at sign, a dot with something on both
sides behind it, and no white space. -/
def IsAddress (cs : List Char) : Prop :=
  ∃ user front back, cs = user ++ '@' :: (front ++ '.' :: back) ∧ user ≠ [] ∧ front ≠ [] ∧ back ≠ []
    ∧ '@' ∉ user ++ front ++ back ∧ ∀ c ∈ cs, isWhite c = false

theorem isDomain_iff :
  isDomain cs = true
    ↔ ∃ front back, cs = front ++ '.' :: back ∧ front ≠ [] ∧ back ≠ [] ∧ '@' ∉ front ++ back
  := by
  rw [isDomain, Bool.and_eq_true, Bool.not_eq_true', List.contains_eq_mem, decide_eq_false_iff_not,
    List.contains_eq_mem, decide_eq_true_eq]
  constructor
  · rintro ⟨hat, hdot⟩
    obtain ⟨first, rest, rfl⟩ : ∃ first rest, cs = first :: rest := by
      cases cs with
      | nil => cases hdot
      | cons first rest => exact ⟨first, rest, rfl⟩
    rw [List.drop_one, List.tail_cons] at hdot
    obtain ⟨front, back, hsplit⟩ := List.append_of_mem hdot
    have hne : rest ≠ [] := by
      rintro rfl
      cases hdot
    have hrest : rest = front ++ '.' :: (back ++ [rest.getLast hne]) := by
      rw [← List.cons_append, ← List.append_assoc, ← hsplit, List.dropLast_append_getLast]
    refine ⟨first :: front, back ++ [rest.getLast hne], ?_, by simp, by simp, ?_⟩
    · rw [List.cons_append, ← hrest]
    · rw [hrest] at hat
      simp only [List.mem_cons, List.mem_append, not_or] at hat ⊢
      tauto
  · rintro ⟨front, back, rfl, hfront, hback, hat⟩
    constructor
    · simp only [List.mem_cons, List.mem_append, not_or] at hat ⊢
      exact ⟨hat.1, by decide, hat.2⟩
    · obtain ⟨first, rest, rfl⟩ := List.exists_cons_of_ne_nil hfront
      rw [List.cons_append, List.drop_one, List.tail_cons, List.dropLast_append_of_ne_nil (by simp),
        List.dropLast_cons_of_ne_nil hback]
      simp

/-- What is accepted as a mail address has its form, white space at its ends not counted. -/
theorem isEmail_iff :
  isEmail s = true ↔ IsAddress (trimChars s.toList)
  := by
  rw [isEmail, IsAddress]
  generalize trimChars s.toList = cs
  by_cases hwhite : cs.any isWhite = true
  · rw [if_pos hwhite]
    obtain ⟨c, hc, hcolor⟩ := List.any_eq_true.mp hwhite
    simp only [Bool.false_eq_true, false_iff]
    rintro ⟨-, -, -, -, -, -, -, -, hnone⟩
    rw [hnone c hc] at hcolor
    cases hcolor
  · have hnone : ∀ c ∈ cs, isWhite c = false := by simpa using hwhite
    rw [if_neg hwhite]
    constructor
    · intro h
      split at h
      next => cases h
      next => cases h
      next user domain hne hcut =>
        obtain ⟨heq, huser⟩ := cutChars_eq_some_iff.mp hcut
        obtain ⟨front, back, rfl, hfront, hback, hat⟩ := isDomain_iff.mp h
        refine ⟨user, front, back, heq, hne, hfront, hback, ?_, hnone⟩
        simp only [List.mem_append, not_or] at hat ⊢
        exact ⟨⟨huser, hat.1⟩, hat.2⟩
    · rintro ⟨user, front, back, rfl, huser, hfront, hback, hat, -⟩
      simp only [List.mem_append, not_or] at hat
      rw [cutChars_append hat.1.1]
      obtain ⟨first, rest, rfl⟩ := List.exists_cons_of_ne_nil huser
      apply isDomain_iff.mpr
      exact ⟨front, back, rfl, hfront, hback, by simp [hat]⟩

/-- A mail address has the form of one in lowercase too. -/
theorem IsAddress.lowercaseBetween (h : IsAddress cs) (before after : List Char) :
  IsAddress (lowercaseBetween before cs after)
  := by
  obtain ⟨user, front, back, rfl, huser, hfront, hback, hat, hwhite⟩ := h
  have hcaseless : isCaseless '@' = true ∧ isCaseless '.' = true := by decide
  have hnone : ∀ c ∈ Text.lowercaseBetween before (user ++ '@' :: (front ++ '.' :: back)) after,
      isWhite c = false := by
    intro c hc
    rw [← Bool.not_eq_true]
    intro hcolor
    have hmem := mem_of_mem_lowercaseBetween hc (isCaseless_of_isWhite hcolor)
    rw [hwhite c hmem] at hcolor
    cases hcolor
  simp only [lowercaseBetween_append, lowercaseBetween_cons_of_isCaseless hcaseless.1,
    lowercaseBetween_cons_of_isCaseless hcaseless.2] at hnone ⊢
  refine ⟨_, _, _, rfl, ?_, ?_, ?_, ?_, hnone⟩
  · rwa [Ne, lowercaseBetween_eq_nil_iff]
  · rwa [Ne, lowercaseBetween_eq_nil_iff]
  · rwa [Ne, lowercaseBetween_eq_nil_iff]
  · intro hmem
    apply hat
    simp only [List.mem_append] at hmem ⊢
    apply hmem.imp
    · apply Or.imp
      · exact fun h => mem_of_mem_lowercaseBetween h hcaseless.1
      · exact fun h => mem_of_mem_lowercaseBetween h hcaseless.1
    · exact fun h => mem_of_mem_lowercaseBetween h hcaseless.1

/-- A mail address in its stored form is trimmed, and it is a mail address. -/
theorem isEmail_stored (h : isEmail s = true) :
  trim (lowercase (trim s)) = lowercase (trim s) ∧ isEmail (lowercase (trim s)) = true
  := by
  have haddress : IsAddress (lowercase (trim s)).toList := by
    rw [lowercase, trim, String.toList_ofList, String.toList_ofList, lowercaseAfter_eq]
    apply (isEmail_iff.mp h).lowercaseBetween
  have htrimmed : trimChars (lowercase (trim s)).toList = (lowercase (trim s)).toList := by
    obtain ⟨-, -, -, -, -, -, -, -, hwhite⟩ := haddress
    apply trimChars_of_not_isWhite hwhite
  constructor
  · rw [trim, htrimmed, String.ofList_toList]
  · rwa [isEmail_iff, htrimmed]

/-! ### Phone numbers -/

theorem not_isWhite_of_digit {c : Char} (h : '0' ≤ c) (h' : c ≤ '9') :
  isWhite c = false
  := by
  have hlow : 48 ≤ c.toNat := h
  have hhigh : c.toNat ≤ 57 := h'
  rw [← Bool.not_eq_true]
  simp only [isWhite, Bool.or_eq_true, Bool.and_eq_true, decide_eq_true_eq, beq_iff_eq]
  omega

theorem not_isWhite_of_isNumber (h : isNumber cs = true) :
  ∀ c ∈ cs, isWhite c = false
  := by
  cases cs with
  | nil => cases h
  | cons first rest =>
    simp only [isNumber, Bool.and_eq_true, decide_eq_true_eq, List.all_eq_true] at h
    obtain ⟨⟨⟨⟨hlow, hhigh⟩, hrest⟩, -⟩, -⟩ := h
    intro c hc
    obtain rfl | hc := List.mem_cons.mp hc
    · have hzero : '0' ≤ c := Char.le_trans (show '0' ≤ '1' by decide) hlow
      exact not_isWhite_of_digit hzero hhigh
    · exact not_isWhite_of_digit (hrest c hc).1 (hrest c hc).2

/-- White space in a phone number is a separator. -/
theorem isSeparator_of_isPhone (h : isPhone s = true) {c : Char} (hc : c ∈ s.toList)
    (hwhite : isWhite c = true) :
  isSeparator c = true
  := by
  by_contra hseparator
  have hmem : c ∈ s.toList.filter fun c => !isSeparator c := by
    rw [List.mem_filter, Bool.not_eq_true']
    exact ⟨hc, by simpa using hseparator⟩
  have hcolor : isWhite c = false := by
    rw [isPhone] at h
    split at h
    next digits hdigits =>
      rw [hdigits] at hmem
      obtain rfl | hmem := List.mem_cons.mp hmem
      · decide
      · exact not_isWhite_of_isNumber h c hmem
    next => exact not_isWhite_of_isNumber h c hmem
  rw [hcolor] at hwhite
  cases hwhite

/-- A trimmed phone number is a phone number. -/
theorem isPhone_trim (h : isPhone s = true) :
  isPhone (trim s) = true
  := by
  obtain ⟨front, back, heq, hwhite⟩ := exists_eq_append_trimChars s.toList
  have hends : ∀ part, part ⊆ front ++ back → part.filter (fun c => !isSeparator c) = [] := by
    intro part hpart
    rw [List.filter_eq_nil_iff]
    intro c hc
    have hmem : c ∈ s.toList := by
      have hboth := hpart hc
      rw [heq]
      simp only [List.mem_append] at hboth ⊢
      tauto
    simp [isSeparator_of_isPhone h hmem (hwhite c (hpart hc))]
  have hsame : s.toList.filter (fun c => !isSeparator c)
      = (trim s).toList.filter fun c => !isSeparator c := by
    rw [trim, String.toList_ofList]
    conv_lhs => rw [heq]
    rw [List.filter_append, List.filter_append, hends front (List.subset_append_left front back),
      hends back (List.subset_append_right front back), List.nil_append, List.append_nil]
  rwa [isPhone, ← hsame]

end Rehoming.Contact
