import Rehoming.Json.Decode
import Rehoming.Settings.Basic
/-!
# Policies in JSON
-/

namespace Rehoming

open Json (Decoder Shape)

/-- A policy as a document. -/
def Policy.toJson (p : Policy) : Json :=
  .obj
    [("application_ttl_days", .nat p.ttlDays), ("max_references", .nat p.maxReferences),
     ("max_reference_slots", .nat p.maxReferenceSlots), ("default_page_size", .nat p.defaultPageSize),
     ("max_page_size", .nat p.maxPageSize), ("transition_retries", .nat p.transitionRetries)]

/-- The written form of a policy, of which every limit has a default. -/
def Policy.shape : Shape Policy :=
  let default : Policy := {}
  Policy.mk <$> .default "application_ttl_days" (Decoder.nat (Number.wordLimit 16)) default.ttlDays
    <*> .default "max_references" (Decoder.nat (Number.wordLimit 64)) default.maxReferences
    <*> .default "max_reference_slots" (Decoder.nat (Number.wordLimit 64)) default.maxReferenceSlots
    <*> .default "default_page_size" (Decoder.nat (Number.wordLimit 32)) default.defaultPageSize
    <*> .default "max_page_size" (Decoder.nat (Number.wordLimit 32)) default.maxPageSize
    <*> .default "transition_retries" (Decoder.nat (Number.wordLimit 8)) default.transitionRetries

end Rehoming
