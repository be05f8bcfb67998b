import Rehoming.Search.Filters
import Rehoming.Text.Lowercase
/-!
# Searches

A search as it is put to the store: filters, a text to look for, an order and a page.  The
matches are sorted by the chosen field and then by identifier, so that no two applications
are equal in the order, and cut into pages.
-/

namespace Rehoming

/-- The field a search is sorted by. -/
inductive SortField where
  | createdAt
  | updatedAt
  | submittedAt
  | status
  | priority
  | score
  deriving DecidableEq, Repr, Inhabited

namespace SortField

/-- Every field. -/
def all : List SortField := [createdAt, updatedAt, submittedAt, status, priority, score]

/-- The written form. -/
def label : SortField → String
  | createdAt => "created_at"
  | updatedAt => "updated_at"
  | submittedAt => "submitted_at"
  | status => "status"
  | priority => "priority"
  | score => "score"

end SortField

/-- The direction a search is sorted in. -/
inductive SortOrder where
  | asc
  | desc
  deriving DecidableEq, Repr

namespace SortOrder

/-- Every direction. -/
def all : List SortOrder := [asc, desc]

/-- The written form. -/
def label : SortOrder → String
  | asc => "asc"
  | desc => "desc"

end SortOrder

/-- How the matches of a search are to be laid out; what is not given has a default. -/
structure SearchOptions where
  page : Option Nat := none
  limit : Option Nat := none
  sortBy : Option SortField := none
  sortOrder : Option SortOrder := none
  deriving DecidableEq

/-- A text to look for, in lowercase, with the users and pets that it is found in. -/
structure TextSearch where
  needle : String
  userIds : List UserId
  petIds : List PetId
  deriving DecidableEq

namespace TextSearch

/-- The form of a text in which it is looked for. -/
def needleOf (s : String) : String :=
  Text.lowercase (Text.trim s)

/-- Whether a text that may be missing holds the needle. -/
def foundIn (t : TextSearch) (s : Option String) : Bool :=
  s.any fun s => Text.contains (Text.lowercase s) t.needle

/-- Whether an application matches: by its applicant, by its pet, or by one of its notes. -/
def finds (t : TextSearch) (a : Application) : Bool :=
  t.userIds.contains a.userId || t.petIds.contains a.petId || t.foundIn a.notes
    || t.foundIn a.rejectionReason || t.foundIn a.interviewNotes || t.foundIn a.homeVisitNotes

end TextSearch

/-- A search as it is put to the store. -/
structure Criteria where
  filters : Filters
  text : Option TextSearch
  page : Nat
  limit : Nat
  sortBy : SortField
  sortOrder : SortOrder
  deriving DecidableEq

namespace Criteria

/-- The search for some options: pages are counted from one, and a page has at least one row
and at most `maxLimit`, or one if that is zero. -/
def of (filters : Filters) (options : SearchOptions) (defaultLimit maxLimit : Nat) : Criteria where
  filters
  text := none
  page := max 1 (options.page.getD 1)
  limit := min (max 1 maxLimit) (max 1 (options.limit.getD defaultLimit))
  sortBy := options.sortBy.getD .createdAt
  sortOrder := options.sortOrder.getD .desc

/-- How many matches stand before the page. -/
def offset (c : Criteria) : Nat :=
  (c.page - 1) * c.limit

/-- Whether an application matches. -/
def finds (c : Criteria) (a : Application) : Bool :=
  c.filters.passedBy a && Filters.admits c.text (·.finds a)

/-- The order of optional values, in which a missing one comes first. -/
def compareOption {α : Type} [Ord α] : Option α → Option α → Ordering
  | none, none => .eq
  | none, some _ => .lt
  | some _, none => .gt
  | some a, some b => compare a b

/-- The order of a field. -/
def compareField (field : SortField) (a b : Application) : Ordering :=
  match field with
  | .createdAt => compare a.createdAt b.createdAt
  | .updatedAt => compare a.updatedAt b.updatedAt
  | .submittedAt => compareOption a.submittedAt b.submittedAt
  | .status => compare a.status.label b.status.label
  | .priority => compare a.priority.rank b.priority.rank
  | .score => compareOption a.score b.score

/-- The order of the matches. -/
def compare (c : Criteria) (a b : Application) : Ordering :=
  let ascending := (compareField c.sortBy a b).then
    (Ord.compare a.applicationId.text b.applicationId.text)
  match c.sortOrder with
  | .asc => ascending
  | .desc => ascending.swap

/-- The matches among some applications, in order. -/
def sorted (c : Criteria) (candidates : List Application) : List Application :=
  (candidates.filter c.finds).mergeSort fun a b => (c.compare a b).isLE

end Criteria

/-- A page of matches, and the number of all of them. -/
structure SearchPage where
  applications : List Application
  total : Nat

namespace Criteria

/-- The page of a search among some applications. -/
def pageOf (c : Criteria) (candidates : List Application) : SearchPage :=
  let matched := c.sorted candidates
  ⟨(matched.drop c.offset).take c.limit, matched.length⟩

end Criteria

/-- Where a page stands among the others. -/
structure Pagination where
  page : Nat
  limit : Nat
  total : Nat
  totalPages : Nat
  hasNext : Bool
  hasPrev : Bool
  deriving DecidableEq, Repr

namespace Pagination

/-- The place of a page, by its number, its size and the number of all matches. -/
def of (page limit total : Nat) : Pagination :=
  let totalPages := if limit = 0 then 0 else (total + limit - 1) / limit
  ⟨page, limit, total, totalPages, page < totalPages, 1 < page⟩

end Pagination

/-- The answer to a search. -/
structure SearchResult where
  applications : List Application
  pagination : Pagination
  filtersApplied : Filters

end Rehoming
