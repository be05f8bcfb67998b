import Rehoming.Store.Records
import Mathlib.Data.List.Nodup
import Mathlib.Data.List.Pairwise
import Mathlib.Tactic.Use
/-!
# The store of applications, call by call

What looking up finds after an insertion and after a write, and what it takes for either to
succeed.  A record that a successful write replaces is the one that was found under its name,
and had the version the writer expected.
-/

namespace Rehoming

namespace Records

variable {records after : Records} {a b : Application} {id : ApplicationId} {expected : Nat}

/-! ### Looking up -/

/-- What is found under a name has that name. -/
theorem applicationId_of_find? (h : records.find? id = some a) :
  a.applicationId = id
  := by
  simpa [find?] using List.find?_some h

theorem mem_of_find? (h : records.find? id = some a) :
  a ∈ records
  := List.mem_of_find?_eq_some h

theorem fetch_eq_some_iff {includeDeleted : Bool} :
  records.fetch id includeDeleted = some a
    ↔ records.find? id = some a ∧ (includeDeleted = true ∨ a.isDeleted = false)
  := by
  simp [fetch, Option.filter_eq_some_iff]

/-- No active application is found if there is none of that applicant for that pet. -/
theorem findActive_eq_none_iff :
  records.findActive a.userId a.petId = none
    ↔ ∀ b ∈ records, b.isActive = true → samePair b a = false
  := by
  simp [findActive, samePair]

/-! ### Insertion -/

/-- A record is inserted if its name is new and no active record is of the same applicant
for the same pet, or the record is not active. -/
theorem insert_eq_ok_iff :
  records.insert a = .ok after
    ↔ records.find? a.applicationId = none
      ∧ (a.isActive = true → ∀ b ∈ records, b.isActive = true → samePair b a = false)
      ∧ after = records ++ [a]
  := by
  rw [insert]
  split
  next taken => simp [Option.isSome_iff_ne_none.mp taken]
  next free =>
    split
    next rival =>
      simp only [Bool.and_eq_true, List.any_eq_true] at rival
      obtain ⟨active, b, hb, hactive, hpair⟩ := rival
      simp only [reduceCtorEq, false_iff, not_and]
      intro _ alone
      simp [alone active b hb hactive] at hpair
    next alone =>
      have hfree : records.find? a.applicationId = none := by simpa using free
      have halone : a.isActive = true →
          ∀ b ∈ records, b.isActive = true → samePair b a = false := by
        simpa using alone
      rw [hfree, Except.ok.injEq]
      constructor
      · rintro rfl
        exact ⟨rfl, halone, rfl⟩
      · rintro ⟨-, -, rfl⟩
        rfl

/-- The older records are found as before. -/
theorem find?_append (h : records.find? id = some b) :
  Records.find? (records ++ [a]) id = some b
  := by
  simp_all [find?]

/-- A record with a new name is found under its name, and nothing else has changed. -/
theorem find?_append_of_free (hfree : records.find? a.applicationId = none) :
  Records.find? (records ++ [a]) id
    = if a.applicationId = id then some a else records.find? id
  := by
  rw [find?, List.find?_append]
  split
  next hid =>
    rw [← hid, show List.find? _ records = none from hfree]
    simp
  next hother => simp [find?, hother]

/-! ### Writing -/

/-- A record is written if the stored one of its name has the version expected. -/
theorem update_eq_ok_iff {written : Application} :
  records.update a expected = .ok (written, after)
    ↔ ∃ current, records.find? a.applicationId = some current ∧ current.version = expected
      ∧ written = { a with version := expected + 1 } ∧ after = records.replace written
  := by
  rw [update]
  cases h : records.find? a.applicationId with
  | none => simp
  | some current =>
    simp only [Option.some.injEq, exists_eq_left']
    split
    next same =>
      simp only [Except.ok.injEq, Prod.mk.injEq, same, true_and]
      constructor
      · rintro ⟨rfl, rfl⟩
        simp
      · rintro ⟨rfl, rfl⟩
        simp
    next other => simp [other]

/-- A record that takes the place of another one is found under its name, and nothing else
has changed. -/
theorem find?_replace :
  (records.replace a).find? id
    = if a.applicationId = id then (records.find? id).map fun _ => a else records.find? id
  := by
  induction records with
  | nil => simp [replace, find?]
  | cons b r ih =>
    simp only [replace, find?, List.map_cons, List.find?_cons] at ih ⊢
    by_cases hb : b.applicationId = a.applicationId
    · by_cases hid : a.applicationId = id
      · simp_all
      · simp_all
    · by_cases hid : a.applicationId = id
      · simp_all
      · by_cases hbid : b.applicationId = id
        · simp_all
        · simp_all

/-- What is stored with a replacement is the replacement, or was stored before under another
name. -/
theorem mem_replace (hb : b ∈ records.replace a) :
  b = a ∨ b ∈ records ∧ b.applicationId ≠ a.applicationId
  := by
  obtain ⟨c, hc, rfl⟩ := List.mem_map.mp hb
  by_cases hname : c.applicationId = a.applicationId
  · simp [hname]
  · right
    simp [hname, hc]

/-- Records of different names take their places in any order. -/
theorem replace_comm (hother : a.applicationId ≠ b.applicationId) :
  (records.replace a).replace b = (records.replace b).replace a
  := by
  rw [replace, replace, replace, replace, List.map_map, List.map_map]
  apply List.map_congr_left
  intro c _
  by_cases ha : c.applicationId = a.applicationId
  · simp [ha, hother]
  · by_cases hb : c.applicationId = b.applicationId
    · simp [hb, hother.symm]
    · simp [ha, hb]

/-! ### Records that are the only ones of their names -/

/-- Whether a record is stored, and is the only one of its name. -/
structure Holds (records : Records) (a : Application) : Prop where
  stored : records.find? a.applicationId = some a
  alone : ∀ b ∈ records, b.applicationId = a.applicationId → b = a

theorem Holds.append (h : records.Holds a) (hfree : records.find? b.applicationId = none) :
  Holds (records ++ [b]) a
  := by
  constructor
  case stored => exact find?_append h.stored
  case alone =>
    intro c hc hname
    obtain hc | hc := List.mem_append.mp hc
    · exact h.alone c hc hname
    · obtain rfl := List.mem_singleton.mp hc
      rw [hname, h.stored] at hfree
      cases hfree

theorem Holds.replace (h : records.Holds a) (hother : b.applicationId ≠ a.applicationId) :
  Holds (records.replace b) a
  := by
  constructor
  case stored => rw [find?_replace, if_neg hother, h.stored]
  case alone =>
    intro c hc hname
    obtain rfl | ⟨hc, -⟩ := mem_replace hc
    · cases hother hname
    · exact h.alone c hc hname

/-- A record that takes the place of another one is the only one of its name. -/
theorem holds_replace (hstored : records.find? a.applicationId = some b) :
  Holds (records.replace a) a
  := by
  constructor
  case stored => rw [find?_replace, if_pos rfl, hstored, Option.map_some]
  case alone =>
    intro c hc hname
    obtain rfl | ⟨-, hother⟩ := mem_replace hc
    · rfl
    · cases hother hname

/-- What does not hold of the record of a name, neither before nor after another one has taken
its place, holds of the same records before and after. -/
theorem Holds.filter_replace (h : records.Holds a) (hname : b.applicationId = a.applicationId)
    {p : Application → Bool} (ha : p a = false) (hb : p b = false) :
  (records.replace b).filter p = records.filter p
  := by
  rw [Records.replace, List.filter_map]
  have hfilter : records.filter (p ∘ fun c => if c.applicationId = b.applicationId then b else c)
      = records.filter p := by
    apply List.filter_congr
    intro c hc
    by_cases hcb : c.applicationId = b.applicationId
    · obtain rfl := h.alone c hc (hcb.trans hname)
      simp [hcb, ha, hb]
    · simp [hcb]
  rw [hfilter]
  have hkept : ∀ c ∈ records.filter p, (if c.applicationId = b.applicationId then b else c) = c := by
    intro c hc
    obtain ⟨hc, hp⟩ := List.mem_filter.mp hc
    apply if_neg
    intro hcb
    rw [h.alone c hc (hcb.trans hname), ha] at hp
    cases hp
  rw [List.map_congr_left hkept, List.map_id']

/-- The same record is the first of some kind if the records of that kind are the same. -/
theorem find?_eq_of_filter_eq {p : Application → Bool} (h : after.filter p = records.filter p) :
  List.find? p after = List.find? p records
  := by
  rw [← List.head?_filter, ← List.head?_filter, h]

/-- There is a record of some kind as before if the records of that kind are the same. -/
theorem any_eq_of_filter_eq {p : Application → Bool} (h : after.filter p = records.filter p) :
  after.any p = records.any p
  := by
  rw [Bool.eq_iff_iff, List.any_eq_true, List.any_eq_true, ← List.find?_isSome, ← List.find?_isSome,
    find?_eq_of_filter_eq h]

/-! ### Names that stay -/

/-- Whether there is a record of a name, deleted or not. -/
def Has (records : Records) (id : ApplicationId) : Prop :=
  (records.find? id).isSome

/-- A record that is inserted is there. -/
theorem has_of_insert (h : records.insert a = .ok after) :
  after.Has a.applicationId
  := by
  obtain ⟨-, -, rfl⟩ := insert_eq_ok_iff.mp h
  simp [Has, find?]

theorem Has.insert (h : records.Has id) (hinsert : records.insert a = .ok after) :
  after.Has id
  := by
  obtain ⟨-, -, rfl⟩ := insert_eq_ok_iff.mp hinsert
  obtain ⟨b, hb⟩ := Option.isSome_iff_exists.mp h
  rw [Has, find?_append hb]
  rfl

theorem Has.replace (h : records.Has id) :
  (records.replace a).Has id
  := by
  rw [Has, find?_replace]
  split
  next =>
    rw [Option.isSome_map]
    exact h
  next => exact h

/-! ### Names and pairs that are taken once -/

/-- Whether every record has a name of its own. -/
def Distinct (records : Records) : Prop :=
  (records.map Application.applicationId).Nodup

/-- Of records with names of their own each is found under its name. -/
theorem Distinct.find?_eq (h : records.Distinct) (ha : a ∈ records) :
  records.find? a.applicationId = some a
  := by
  induction records with
  | nil => cases ha
  | cons b r ih =>
    obtain ⟨hb, hr⟩ := List.nodup_cons.mp h
    rw [find?, List.find?_cons]
    obtain rfl | ha := List.mem_cons.mp ha
    · simp
    · have hne : b.applicationId ≠ a.applicationId := by
        intro hname
        apply hb
        rw [hname]
        exact List.mem_map_of_mem ha
      simp only [hne, decide_false]
      apply ih hr ha

theorem Distinct.holds (h : records.Distinct) (ha : a ∈ records) :
  records.Holds a
  := by
  use h.find?_eq ha
  intro b hb hname
  have hfound := h.find?_eq hb
  rw [hname, h.find?_eq ha] at hfound
  exact (Option.some.inj hfound).symm

theorem Distinct.nodup (h : records.Distinct) :
  records.Nodup
  := List.Nodup.of_map _ h

/-- A record that is inserted has a new name. -/
theorem Distinct.insert (h : records.Distinct) (hinsert : records.insert a = .ok after) :
  after.Distinct
  := by
  obtain ⟨hfree, -, rfl⟩ := insert_eq_ok_iff.mp hinsert
  rw [Distinct, List.map_append, List.nodup_append]
  refine ⟨h, List.nodup_singleton _, ?_⟩
  intro id hid id' hid' hsame
  obtain ⟨b, hb, rfl⟩ := List.mem_map.mp hid
  obtain rfl := List.mem_singleton.mp hid'
  have hother := List.find?_eq_none.mp hfree b hb
  simp [hsame] at hother

/-- A record that is written has the name of the one it replaces. -/
theorem Distinct.replace (h : records.Distinct) :
  (records.replace a).Distinct
  := by
  have hnames : (records.replace a).map Application.applicationId
      = records.map Application.applicationId := by
    rw [Records.replace, List.map_map]
    apply List.map_congr_left
    intro b _
    by_cases hb : b.applicationId = a.applicationId
    · simp [hb]
    · simp [hb]
  rw [Distinct, hnames]
  exact h

/-- Whether two records have different names, and not both are active if they are of the same
applicant for the same pet. -/
def Apart (a b : Application) : Prop :=
  a.applicationId ≠ b.applicationId
  ∧ (a.isActive = true → b.isActive = true → samePair a b = false)

/-- Whether any two of the records are apart. -/
def Unique (records : Records) : Prop :=
  records.Pairwise Apart

theorem samePair_comm :
  samePair a b = samePair b a
  := by
  simp only [samePair, Bool.beq_comm]

theorem Apart.symm (h : Apart a b) :
  Apart b a
  := by
  use h.1.symm
  intro hb ha
  rw [samePair_comm]
  apply h.2 ha hb

instance : Std.Symm Apart := ⟨fun _ _ => Apart.symm⟩

/-- Records that are apart have names of their own. -/
theorem Unique.distinct (h : records.Unique) :
  records.Distinct
  := List.pairwise_map.mpr (h.imp And.left)

/-- Of records that are apart each is found under its name. -/
theorem Unique.find?_eq (h : records.Unique) (ha : a ∈ records) :
  records.find? a.applicationId = some a
  := h.distinct.find?_eq ha

theorem Unique.insert (h : records.Unique) (hinsert : records.insert a = .ok after) :
  after.Unique
  := by
  obtain ⟨hfree, halone, rfl⟩ := insert_eq_ok_iff.mp hinsert
  apply List.pairwise_append.mpr
  use h, List.pairwise_singleton _ _
  intro b hb a' ha'
  obtain rfl := List.mem_singleton.mp ha'
  constructor
  · simpa using List.find?_eq_none.mp hfree b hb
  · intro hactive ha
    apply halone ha b hb hactive

/-- Two active records of the same applicant for the same pet are the same record. -/
theorem Unique.eq_of_samePair (h : records.Unique) (ha : a ∈ records) (hb : b ∈ records)
    (hactive : a.isActive = true) (hactive' : b.isActive = true) (hpair : samePair a b = true) :
  a = b
  := by
  by_contra hne
  have hapart : Apart a b := List.Pairwise.forall h ha hb hne
  rw [hapart.2 hactive hactive'] at hpair
  cases hpair

/-- Records stay apart if a record takes the place of the one of its name, as long as it is not
active or has no active rival of another name; and only so long. -/
theorem Unique.replace_iff {current : Application} (h : records.Unique)
    (hfound : records.find? a.applicationId = some current) :
  (records.replace a).Unique
    ↔ (a.isActive = true → ∀ b ∈ records, b.applicationId ≠ a.applicationId →
        b.isActive = true → samePair b a = false)
  := by
  constructor
  · intro hunique ha b hb hname hactive
    by_contra hpair
    have hrival : b ∈ records.replace a := List.mem_map.mpr ⟨b, hb, if_neg hname⟩
    have hwritten : a ∈ records.replace a := mem_of_find? (holds_replace hfound).stored
    apply hname
    rw [hunique.eq_of_samePair hrival hwritten hactive ha (by simpa using hpair)]
  · intro halone
    -- Of two records at most one is replaced, since they have different names.
    apply List.pairwise_map.mpr
    apply List.Pairwise.imp_of_mem _ h
    have hlike : ∀ c ∈ records, c.applicationId ≠ a.applicationId → Apart c a := by
      intro c hc hname
      use hname
      intro hactive ha
      apply halone ha c hc hname hactive
    intro c d hc hd hcd
    by_cases hca : c.applicationId = a.applicationId
    · by_cases hda : d.applicationId = a.applicationId
      · cases hcd.1 (hca.trans hda.symm)
      · rw [if_pos hca, if_neg hda]
        apply (hlike d hd hda).symm
    · by_cases hda : d.applicationId = a.applicationId
      · rw [if_neg hca, if_pos hda]
        apply hlike c hc hca
      · rw [if_neg hca, if_neg hda]
        apply hcd

/-- Records stay apart if a record takes the place of one of its name and its pair, and is
active only if that one was. -/
theorem Unique.replace (h : records.Unique) (hfound : records.find? a.applicationId = some b)
    (hpair : a.userId = b.userId ∧ a.petId = b.petId)
    (hactive : a.isActive = true → b.isActive = true) :
  (records.replace a).Unique
  := by
  apply (h.replace_iff hfound).mpr
  intro ha c hc hname hc'
  by_contra hsame
  have hsame' : samePair c b = true := by
    rw [samePair, ← hpair.1, ← hpair.2, ← samePair]
    simpa using hsame
  apply hname
  rw [h.eq_of_samePair hc (mem_of_find? hfound) hc' (hactive ha) hsame']
  exact applicationId_of_find? hfound

/-- Of an applicant for a pet there is one active record at most. -/
theorem Unique.length_filter_le (h : records.Unique) (user : UserId) (pet : PetId) :
  (records.filter fun a => a.isActive && a.userId == user && a.petId == pet).length ≤ 1
  := by
  have hactive := fun a (ha : a ∈ records.filter fun a => a.isActive && a.userId == user && a.petId == pet) =>
    List.mem_filter.mp ha
  have hapart : (records.filter fun a => a.isActive && a.userId == user && a.petId == pet).Pairwise
      Apart := h.filter _
  cases hfilter : records.filter fun a => a.isActive && a.userId == user && a.petId == pet with
  | nil => simp
  | cons a r =>
    cases r with
    | nil => simp
    | cons b r =>
      rw [hfilter] at hactive hapart
      have ha := (hactive a (by simp)).2
      have hb := (hactive b (by simp)).2
      have hab := (List.pairwise_cons.mp hapart).1 b (by simp)
      simp only [Bool.and_eq_true, beq_iff_eq] at ha hb
      have hpair := hab.2 ha.1.1 hb.1.1
      simp [samePair, ha, hb] at hpair

/-- The active application that is found is the only one. -/
theorem Unique.findActive_eq_some_iff (h : records.Unique) {user : UserId} {pet : PetId} :
  records.findActive user pet = some a
    ↔ a ∈ records ∧ a.isActive = true ∧ a.userId = user ∧ a.petId = pet
  := by
  constructor
  · intro hfound
    use List.mem_of_find?_eq_some hfound
    simpa [and_assoc] using List.find?_some hfound
  · rintro ⟨ha, hactive, rfl, rfl⟩
    cases hfound : records.findActive a.userId a.petId with
    | none =>
      have hnone := findActive_eq_none_iff.mp hfound a ha hactive
      simp [samePair] at hnone
    | some b =>
      have hb : b ∈ records := List.mem_of_find?_eq_some hfound
      have hmatch := List.find?_some hfound
      simp only [Bool.and_eq_true, beq_iff_eq] at hmatch
      congr 1
      apply h.eq_of_samePair hb ha hmatch.1.1 hactive
      simp [samePair, hmatch]

end Records

end Rehoming
