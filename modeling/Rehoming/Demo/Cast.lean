import Rehoming.Access
import Rehoming.Edit
import Rehoming.Store.Directory
/-!
# The cast of the demonstration

One rescue with its staff, two adopters, four pets, and the application that one of the
adopters sends in for any of them.
-/

namespace Rehoming.Demo

/-- The rescue. -/
def rescue : RescueId := ⟨"rescue-northside"⟩

/-- The adopter. -/
def adopter : Actor := ⟨⟨"user-jamie"⟩, .adopter, none⟩

/-- The other adopter. -/
def secondAdopter : Actor := ⟨⟨"user-morgan"⟩, .adopter, none⟩

/-- The staff, whose rescue the directory knows. -/
def staff : Actor := ⟨⟨"staff-casey"⟩, .rescueStaff, none⟩

/-- The administrator. -/
def admin : Actor := ⟨⟨"admin-ops"⟩, .admin, none⟩

/-- A user of the rescue's own domain. -/
def profile (actor : Actor) (firstName lastName mailbox : String) : UserProfile :=
  ⟨actor.userId, firstName, lastName, mailbox ++ "@northside.example"⟩

/-- A pet of the rescue that can be adopted. -/
def pet (id name breed : String) : Pet :=
  ⟨⟨id⟩, rescue, name, some breed, .available⟩

/-- The first pet. -/
def rufus : Pet := pet "pet-rufus" "Rufus" "Labrador"

/-- The second pet. -/
def willow : Pet := pet "pet-willow" "Willow" "Whippet"

/-- The third pet. -/
def sprout : Pet := pet "pet-sprout" "Sprout" "Terrier"

/-- The fourth pet. -/
def olive : Pet := pet "pet-olive" "Olive" "Poodle"

/-- Everyone who takes part. -/
def directory : Directory where
  users :=
    [profile adopter "Jamie" "Rowe" "jamie", profile secondAdopter "Morgan" "Lee" "morgan",
     profile staff "Casey" "Ford" "casey", profile admin "Ops" "Team" "ops"]
  pets := [rufus, willow, sprout, olive]
  staff := [(staff.userId, rescue)]

/-- What the adopter fills into the form. -/
def answers : Answers :=
  Dictionary.ofList
    [("first_name", .text "Jamie"), ("last_name", .text "Rowe"),
     ("email", .text "jamie@northside.example"), ("phone", .text "+1 555 201 3000"),
     ("address", .text "88 Elm Street"), ("city", .text "Springfield"), ("postcode", .text "62704"),
     ("home_type", .text "house"), ("own_rent", .text "own"), ("has_yard", .boolean true),
     ("household_members", .number (Double.ofNat 3)), ("previous_pets", .boolean true)]

/-- Whom the adopter names as references. -/
def references : List ReferenceInput :=
  [⟨none, "Sam Patel", "Landlord", "+1 555 201 4400", some "sam@lettings.example"⟩,
   ⟨none, "Dr. Greene", "Veterinarian", "+1 555 201 9911", none⟩]

/-- What the adopter sends in for a pet. -/
def submission (pet : Pet) : Submission where
  petId := pet.petId
  answers
  references
  priority := none
  notes := none
  tags := .empty

end Rehoming.Demo
