import Rehoming.Ids
import Rehoming.Text.Lowercase
import Rehoming.Text.Substring
/-!
# The directory

The users, the pets and the staff that the workflow knows of.  Whoever is added takes the
place of the one of the same name.
-/

namespace Rehoming

/-- What is known of a user. -/
structure UserProfile where
  userId : UserId
  firstName : String
  lastName : String
  email : String
  deriving DecidableEq, Repr

/-- Whether a pet can be adopted. -/
inductive PetStatus where
  | available
  | pending
  | adopted
  | onHold
  | medicalCare
  | notAvailable
  deriving DecidableEq, Repr

namespace PetStatus

/-- Every status. -/
def all : List PetStatus := [available, pending, adopted, onHold, medicalCare, notAvailable]

/-- The written form. -/
def label : PetStatus → String
  | available => "available"
  | pending => "pending"
  | adopted => "adopted"
  | onHold => "on_hold"
  | medicalCare => "medical_care"
  | notAvailable => "not_available"

end PetStatus

/-- What is known of a pet. -/
structure Pet where
  petId : PetId
  rescueId : RescueId
  name : String
  breed : Option String
  status : PetStatus
  deriving DecidableEq, Repr

/-- The users, the pets and the staff. -/
structure Directory where
  users : List UserProfile := []
  pets : List Pet := []
  staff : List (UserId × RescueId) := []
  deriving DecidableEq, Repr

namespace Directory

/-- The directory with one more user. -/
def addUser (d : Directory) (user : UserProfile) : Directory :=
  { d with users := d.users.filter (·.userId != user.userId) ++ [user] }

/-- The directory with one more pet. -/
def addPet (d : Directory) (pet : Pet) : Directory :=
  { d with pets := d.pets.filter (·.petId != pet.petId) ++ [pet] }

/-- The directory with one more member of a rescue's staff. -/
def addStaff (d : Directory) (user : UserId) (rescue : RescueId) : Directory :=
  { d with staff := d.staff.filter (·.1 != user) ++ [(user, rescue)] }

/-- The user of a name. -/
def findUser (d : Directory) (id : UserId) : Option UserProfile :=
  d.users.find? (·.userId == id)

/-- The pet of a name. -/
def findPet (d : Directory) (id : PetId) : Option Pet :=
  d.pets.find? (·.petId == id)

/-- The rescue a user works for. -/
def findStaffRescue (d : Directory) (id : UserId) : Option RescueId :=
  (d.staff.find? (·.1 == id)).map (·.2)

/-- Whether a text holds another one, both taken in lowercase. -/
def holds (s needle : String) : Bool :=
  Text.contains (Text.lowercase s) (Text.lowercase needle)

/-- The users whose full name or mail address holds a text. -/
def matchingUsers (d : Directory) (needle : String) : List UserId :=
  (d.users.filter fun u => holds (u.firstName ++ " " ++ u.lastName) needle || holds u.email needle).map
    (·.userId)

/-- The pets whose name or breed holds a text. -/
def matchingPets (d : Directory) (needle : String) : List PetId :=
  (d.pets.filter fun p => holds p.name needle || p.breed.any fun breed => holds breed needle).map
    (·.petId)

end Directory

end Rehoming
