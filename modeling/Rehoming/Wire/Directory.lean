import Rehoming.Store.Directory
import Rehoming.Wire.Mark
/-!
# Users and pets in JSON
-/

namespace Rehoming

open Json (Decoder Shape)

/-- What is known of a user, as a document. -/
def UserProfile.toJson (u : UserProfile) : Json :=
  .obj
    [("user_id", u.userId.toJson), ("first_name", .str u.firstName), ("last_name", .str u.lastName),
     ("email", .str u.email)]

/-- The written form of what is known of a user. -/
def UserProfile.shape : Shape UserProfile :=
  UserProfile.mk <$> .required "user_id" UserId.ofJson <*> .required "first_name" Decoder.text
    <*> .required "last_name" Decoder.text <*> .required "email" Decoder.text

/-- What is known of a pet, as a document. -/
def Pet.toJson (p : Pet) : Json :=
  .obj
    [("pet_id", p.petId.toJson), ("rescue_id", p.rescueId.toJson), ("name", .str p.name),
     ("breed", Json.orNull .str p.breed), ("status", .str p.status.label)]

/-- The written form of what is known of a pet. -/
def Pet.shape : Shape Pet :=
  Pet.mk <$> .required "pet_id" PetId.ofJson <*> .required "rescue_id" RescueId.ofJson
    <*> .required "name" Decoder.text <*> .nullable "breed" Decoder.text
    <*> .required "status" (Decoder.label PetStatus.all PetStatus.label)

end Rehoming
