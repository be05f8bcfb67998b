import Rehoming.Application.Basic
/-!
# Search filters

What a caller may ask for: marks, people, scores, tags, notes, times and a text.  A filter
that is not given lets everything through.
-/

namespace Rehoming

/-- One value, or a list of which any will do. -/
inductive OneOrMany (α : Type) where
  | one (a : α)
  | many (l : List α)
  deriving DecidableEq

namespace OneOrMany

/-- Whether a value is among those meant. -/
def contains {α : Type} [BEq α] : OneOrMany α → α → Bool
  | one b, a => b == a
  | many l, a => l.contains a

end OneOrMany

/-- The filters of a search. -/
structure Filters where
  status : Option (OneOrMany Status) := none
  priority : Option (OneOrMany Priority) := none
  userId : Option UserId := none
  petId : Option PetId := none
  rescueId : Option RescueId := none
  actionedBy : Option UserId := none
  scoreMin : Option Nat := none
  scoreMax : Option Nat := none
  /-- At least one of these must be on the application, if there are any. -/
  tags : List String := []
  search : Option String := none
  hasInterviewNotes : Option Bool := none
  hasHomeVisitNotes : Option Bool := none
  createdFrom : Option Time.Instant := none
  createdTo : Option Time.Instant := none
  submittedFrom : Option Time.Instant := none
  submittedTo : Option Time.Instant := none
  includeDeleted : Bool := false
  deriving DecidableEq

namespace Filters

/-- Whether a filter that may be missing lets a value through. -/
def admits {α : Type} (wanted : Option α) (ok : α → Bool) : Bool :=
  match wanted with
  | none => true
  | some a => ok a

/-- Whether a score lies within bounds that may be missing. -/
def admitsScore (f : Filters) (score : Option Nat) : Bool :=
  match score with
  | some s => admits f.scoreMin (· ≤ s) && admits f.scoreMax (s ≤ ·)
  | none => f.scoreMin.isNone && f.scoreMax.isNone

/-- Whether a time lies within bounds that may be missing. -/
def within (start finish : Option Time.Instant) (time : Option Time.Instant) : Bool :=
  match time with
  | some t => admits start (fun s => s ≤ t) && admits finish (fun e => t ≤ e)
  | none => start.isNone && finish.isNone

/-- Whether notes are present and not blank. -/
def hasText (notes : Option String) : Bool :=
  notes.any fun s => !Text.isBlank s

/-- Whether an application passes every filter but the text. -/
def passedBy (f : Filters) (a : Application) : Bool :=
  (!a.isDeleted || f.includeDeleted)
    && admits f.status (·.contains a.status)
    && admits f.priority (·.contains a.priority)
    && admits f.userId (· == a.userId)
    && admits f.petId (· == a.petId)
    && admits f.rescueId (· == a.rescueId)
    && admits f.actionedBy (fun user => a.actionedBy == some user)
    && f.admitsScore a.score
    && (f.tags.isEmpty || f.tags.any a.tags.contains)
    && admits f.hasInterviewNotes (· == hasText a.interviewNotes)
    && admits f.hasHomeVisitNotes (· == hasText a.homeVisitNotes)
    && within f.createdFrom f.createdTo (some a.createdAt)
    && within f.submittedFrom f.submittedTo a.submittedAt

end Filters

end Rehoming
