import Rehoming.Number.Natural
import Rehoming.Proofs.Search.Order
import Rehoming.Proofs.Sharing.Requests
/-!
# Pages partition the matches

A search is cut into pages of at least one row and at most as many as a page may have.  Together
the pages show every match once, in the order of the search; all of them but the last one are
full, and there is a next page exactly if it has something to show.
-/

namespace Rehoming

namespace Criteria

variable {c : Criteria} {records : List Application} {page : Nat}

/-- The rows of a page of a search, if it is laid out as it is but for the page. -/
def rows (c : Criteria) (records : List Application) (page : Nat) : List Application :=
  ({ c with page }.pageOf records).applications

/-- How many pages it takes to show the matches of a search. -/
def pageCount (c : Criteria) (records : List Application) : Nat :=
  (Pagination.of c.page c.limit (c.pageOf records).total).totalPages

/-- That the pages of a search show its matches. -/
structure Partitions (c : Criteria) (records : List Application) : Prop where
  total : (c.pageOf records).total = records.countP c.finds
  inOrder : ((List.range (c.pageCount records)).flatMap fun k => c.rows records (k + 1)).Pairwise
    fun a b => c.compare a b = .lt ∧ c.Precedes a b
  complete : ∀ a, a ∈ ((List.range (c.pageCount records)).flatMap fun k => c.rows records (k + 1))
    ↔ a ∈ records ∧ c.finds a = true
  full : ∀ page, 1 ≤ page → page < c.pageCount records → (c.rows records page).length = c.limit
  beyond : ∀ page, c.pageCount records < page → c.rows records page = []
  next : ∀ page, (Pagination.of page c.limit (c.pageOf records).total).hasNext = true
    ↔ c.rows records (page + 1) ≠ []
  previous : ∀ page, (Pagination.of page c.limit (c.pageOf records).total).hasPrev = true ↔ 1 < page

theorem rows_eq (c : Criteria) (records : List Application) (page : Nat) :
  c.rows records page = ((c.sorted records).drop ((page - 1) * c.limit)).take c.limit
  := rfl

theorem total_eq (c : Criteria) (records : List Application) :
  (c.pageOf records).total = (c.sorted records).length
  := rfl

/-- A page shows what is left of the matches behind the pages before it, as far as it has room. -/
theorem length_rows (c : Criteria) (records : List Application) (page : Nat) :
  (c.rows records page).length
    = min c.limit ((c.pageOf records).total - (page - 1) * c.limit)
  := by
  rw [rows_eq, List.length_take, List.length_drop, total_eq]

theorem pageCount_eq (hlimit : 0 < c.limit) :
  c.pageCount records = ((c.pageOf records).total + c.limit - 1) / c.limit
  := by
  rw [pageCount, Pagination.of]
  exact if_neg (Nat.ne_of_gt hlimit)

/-- A page is not the last one if there are matches left behind it. -/
theorem lt_pageCount_iff (hlimit : 0 < c.limit) :
  page < c.pageCount records ↔ page * c.limit < (c.pageOf records).total
  := by
  rw [pageCount_eq hlimit, ← Nat.add_one_le_iff, Nat.le_div_iff_mul_le hlimit, Nat.succ_mul]
  omega

/-- It takes at most as many pages as there are matches. -/
theorem pageCount_le (hlimit : 0 < c.limit) :
  c.pageCount records ≤ (c.pageOf records).total
  := by
  by_contra hmore
  have hleft := (lt_pageCount_iff hlimit).mp (Nat.lt_of_not_le hmore)
  have hrows := Nat.le_mul_of_pos_right (c.pageOf records).total hlimit
  omega

theorem rows_succ_ne_nil_iff (hlimit : 0 < c.limit) :
  c.rows records (page + 1) ≠ [] ↔ page < c.pageCount records
  := by
  rw [lt_pageCount_iff hlimit, ← List.length_pos_iff, length_rows, Nat.add_sub_cancel]
  omega

/-- All pages together show the matches in order. -/
theorem flatMap_rows (hlimit : 0 < c.limit) :
  ((List.range (c.pageCount records)).flatMap fun k => c.rows records (k + 1)) = c.sorted records
  := c.flatMap_pageOf records hlimit (Nat.le_refl _)

theorem partitions (hlimit : 0 < c.limit) (hnames : (records.map (·.applicationId)).Nodup) :
  c.Partitions records
  := by
  constructor
  case total => rw [total_eq, (c.perm_sorted records).length_eq, List.countP_eq_length_filter]
  case inOrder =>
    rw [flatMap_rows hlimit]
    apply (c.pairwise_sorted hnames).imp
    intro a b h
    exact ⟨h, compare_eq_lt_iff.mp h⟩
  case complete =>
    intro a
    rw [flatMap_rows hlimit, mem_sorted_iff]
  case full =>
    intro page hfirst hpage
    obtain ⟨before, rfl⟩ := Nat.exists_eq_add_of_le' hfirst
    rw [lt_pageCount_iff hlimit, Nat.succ_mul] at hpage
    rw [length_rows, Nat.add_sub_cancel]
    omega
  case beyond =>
    intro page hpage
    obtain ⟨before, rfl⟩ := Nat.exists_eq_add_of_le' (Nat.succ_le_of_lt (Nat.zero_lt_of_lt hpage))
    by_contra hrows
    have hbefore := (rows_succ_ne_nil_iff hlimit).mp hrows
    omega
  case next =>
    intro page
    rw [rows_succ_ne_nil_iff hlimit]
    exact decide_eq_true_iff
  case previous =>
    intro page
    exact decide_eq_true_iff

end Criteria

/-- Where pages are numbered with words of 32 bits, and there are not more applications than that,
a page of a search has at least one row and at most as many as a page may have, and what stands
before it is counted with a word of 64 bits.  The pages of a search show its matches: each of
them once, in strict order, on pages that are full but for the last one; and every page that
shows something can be asked for.  All of this is the same in whatever order the applications
are listed. -/
theorem pages_partition (filters : Filters) (text : Option TextSearch) (options : SearchOptions)
    (defaultLimit maxLimit : Nat) (records : List Application)
    (hpage : ∀ page, options.page = some page → page < Number.wordLimit 32)
    (hmax : maxLimit < Number.wordLimit 32)
    (hnames : (records.map (·.applicationId)).Nodup) (hfew : records.length < Number.wordLimit 32) :
  let c : Criteria := { Criteria.of filters options defaultLimit maxLimit with text }
  1 ≤ c.limit ∧ c.limit ≤ max 1 maxLimit
  ∧ 1 ≤ c.page ∧ c.page < Number.wordLimit 32 ∧ c.offset < Number.wordLimit 64
  ∧ c.pageCount records < Number.wordLimit 32
  ∧ (∀ page, 1 ≤ page →
      { Criteria.of filters { options with page := some page } defaultLimit maxLimit with text }
        = { c with page })
  ∧ c.Partitions records
  ∧ ∀ records', records'.Perm records → ∀ page,
      { c with page }.pageOf records' = { c with page }.pageOf records
  := by
  intro c
  have hc : c.page = max 1 (options.page.getD 1) := rfl
  have hrows : c.limit = min (max 1 maxLimit) (max 1 (options.limit.getD defaultLimit)) := rfl
  have hword : Number.wordLimit 32 = 4294967296 := rfl
  have hsome : 0 < c.limit := Criteria.limit_of_pos filters options defaultLimit maxLimit
  have hmost : c.limit < Number.wordLimit 32 := by omega
  have hwidth : c.page < Number.wordLimit 32 := by
    rw [hc]
    cases hgiven : options.page with
    | none => decide
    | some page =>
      have hgiven' := hpage page hgiven
      simp only [Option.getD_some]
      omega
  have htotal : (c.pageOf records).total ≤ records.length := by
    rw [Criteria.total_eq, (c.perm_sorted records).length_eq]
    apply List.length_filter_le
  refine ⟨hsome, ?_, ?_, hwidth, ?_, ?_, ?_, Criteria.partitions hsome hnames, ?_⟩
  · omega
  · omega
  · calc (c.page - 1) * c.limit ≤ Number.wordLimit 32 * c.limit := Nat.mul_le_mul_right _ (by omega)
      _ < Number.wordLimit 32 * Number.wordLimit 32 := Nat.mul_lt_mul_of_pos_left hmost (by decide)
      _ = Number.wordLimit 64 := rfl
  · have hpages : c.pageCount records ≤ (c.pageOf records).total := Criteria.pageCount_le hsome
    omega
  · intro page hfirst
    have hsame : max 1 page = page := Nat.max_eq_right hfirst
    simp only [Criteria.of, Option.getD_some, hsame]
    rfl
  · intro records' hperm page
    have hsorted := c.sorted_of_perm hnames hperm
    simp only [Criteria.pageOf]
    change SearchPage.mk (List.take _ (List.drop _ (c.sorted records'))) (c.sorted records').length = _
    rw [hsorted]
    rfl

/-- Two applications are shown on two pages of one row each. -/
theorem two_pages_partition :
  let c : Criteria := { Criteria.of {} { page := some 2, limit := some 1 } 20 100 with text := none }
  (Demo.bothApplied.records.map (·.applicationId)).Nodup
  ∧ Demo.bothApplied.records.length < Number.wordLimit 32
  ∧ c.Partitions Demo.bothApplied.records ∧ c.pageCount Demo.bothApplied.records = 2
  := by
  intro c
  have hnames : (Demo.bothApplied.records.map (·.applicationId)).Nodup := by decide +kernel
  have hfew : Demo.bothApplied.records.length < Number.wordLimit 32 := by decide +kernel
  have hpage : ∀ page, some 2 = some page → page < Number.wordLimit 32 := by
    rintro page ⟨⟩
    decide
  obtain ⟨hsome, -, -, -, -, -, -, hpartitions, -⟩ := pages_partition {} none
    { page := some 2, limit := some 1 } 20 100 Demo.bothApplied.records hpage (by decide) hnames hfew
  refine ⟨hnames, hfew, hpartitions, ?_⟩
  have hboth : Demo.bothApplied.records.countP c.finds = 2 := by decide +kernel
  rw [Criteria.pageCount_eq hsome, hpartitions.total, hboth]
  rfl

end Rehoming
