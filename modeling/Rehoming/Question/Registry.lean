import Rehoming.Question.Basic
/-!
# The question registry

The questions that have been set up, in the order in which they were, and the form of a
rescue: the questions it asks, by category and then by display order.  The core questions
are those every rescue starts from.
-/

namespace Rehoming

/-- The questions that have been set up. -/
abbrev Registry := List Question

namespace Registry

/-- Whether a question stands before another in a form, or beside it. -/
def inFormOrder (a b : Question) : Bool :=
  a.category.rank < b.category.rank
    || (a.category.rank == b.category.rank && a.displayOrder ≤ b.displayOrder)

/-- The questions a rescue asks, in the order of the form. -/
def formOf (questions : Registry) (rescue : RescueId) : List Question :=
  (questions.filter (·.appliesTo rescue)).mergeSort inFormOrder

end Registry

/-- A core question. -/
def coreQuestion (key : String) (category : Category) (kind : QuestionKind) (text : String)
    (displayOrder : Nat) (isRequired : Bool) (options : List String) : Question where
  questionId := "core_" ++ key
  rescueId := none
  key
  scope := .core
  category
  kind
  text
  options
  displayOrder
  isEnabled := true
  isRequired

/-- The questions every rescue starts from. -/
def coreQuestions : List Question :=
  [coreQuestion "first_name" .personalInformation .text "First name" 1 true [],
   coreQuestion "last_name" .personalInformation .text "Last name" 2 true [],
   coreQuestion "email" .personalInformation .email "Email address" 3 true [],
   coreQuestion "phone" .personalInformation .phone "Phone number" 4 true [],
   coreQuestion "address" .personalInformation .address "Home address" 5 true [],
   coreQuestion "city" .personalInformation .text "City" 6 true [],
   coreQuestion "postcode" .personalInformation .text "Postcode" 7 true [],
   coreQuestion "home_type" .householdInformation .select "What type of home do you live in?" 1 true
     ["house", "apartment", "condo", "other"],
   coreQuestion "own_rent" .householdInformation .select "Do you own or rent your home?" 2 true
     ["own", "rent"],
   coreQuestion "has_yard" .householdInformation .boolean "Do you have a yard?" 3 true [],
   coreQuestion "household_members" .householdInformation .number
     "How many people live in your household?" 4 true [],
   coreQuestion "previous_pets" .petOwnershipExperience .boolean "Have you owned pets before?" 1 true [],
   coreQuestion "veterinarian" .referencesVerification .text "Veterinarian contact" 1 false []]

end Rehoming
