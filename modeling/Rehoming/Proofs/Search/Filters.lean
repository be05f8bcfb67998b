import Rehoming.Proofs.Text.Lowercase
import Rehoming.Proofs.Text.Trim
import Rehoming.Search.Criteria
import Rehoming.Store.Directory
/-!
# What filters ask for

The filters of a search in words of the application that is looked for, and the text among
them in words of the directory, which knows the applicant and the pet.
-/

namespace Rehoming

/-- That a value is among those meant. -/
def OneOrMany.Means {α : Type} (wanted : OneOrMany α) (a : α) : Prop :=
  match wanted with
  | one b => a = b
  | many l => a ∈ l

/-- That a text holds another one, both taken in lowercase. -/
def Text.Mentions (s needle : String) : Prop :=
  (lowercase needle).toList <:+: (lowercase s).toList

/-- That a text is found in the notes on an application, in what the directory knows of its
applicant, or in what it knows of its pet. -/
def Application.Mentions (a : Application) (d : Directory) (needle : String) : Prop :=
  (∃ s, (a.notes = some s ∨ a.rejectionReason = some s ∨ a.interviewNotes = some s
      ∨ a.homeVisitNotes = some s) ∧ Text.Mentions s needle)
  ∨ (∃ user ∈ d.users, user.userId = a.userId
      ∧ (Text.Mentions (user.firstName ++ " " ++ user.lastName) needle
        ∨ Text.Mentions user.email needle))
  ∨ ∃ pet ∈ d.pets, pet.petId = a.petId
      ∧ (Text.Mentions pet.name needle ∨ ∃ breed, pet.breed = some breed ∧ Text.Mentions breed needle)

/-- That an application is what filters ask for, deleted or not. -/
structure Filters.Wants (f : Filters) (d : Directory) (a : Application) : Prop where
  status : ∀ wanted, f.status = some wanted → wanted.Means a.status
  priority : ∀ wanted, f.priority = some wanted → wanted.Means a.priority
  userId : ∀ user, f.userId = some user → user = a.userId
  petId : ∀ pet, f.petId = some pet → pet = a.petId
  rescueId : ∀ rescue, f.rescueId = some rescue → rescue = a.rescueId
  actionedBy : ∀ user, f.actionedBy = some user → a.actionedBy = some user
  scoreMin : ∀ n, f.scoreMin = some n → ∃ score, a.score = some score ∧ n ≤ score
  scoreMax : ∀ n, f.scoreMax = some n → ∃ score, a.score = some score ∧ score ≤ n
  tags : f.tags ≠ [] → ∃ tag ∈ f.tags, tag ∈ a.tags.toList
  interviewNotes : ∀ wanted, f.hasInterviewNotes = some wanted →
    (wanted = true ↔ ∃ s, a.interviewNotes = some s ∧ Text.isBlank s = false)
  homeVisitNotes : ∀ wanted, f.hasHomeVisitNotes = some wanted →
    (wanted = true ↔ ∃ s, a.homeVisitNotes = some s ∧ Text.isBlank s = false)
  createdFrom : ∀ t, f.createdFrom = some t → t ≤ a.createdAt
  createdTo : ∀ t, f.createdTo = some t → a.createdAt ≤ t
  submittedFrom : ∀ t, f.submittedFrom = some t → ∃ time, a.submittedAt = some time ∧ t ≤ time
  submittedTo : ∀ t, f.submittedTo = some t → ∃ time, a.submittedAt = some time ∧ time ≤ t
  search : ∀ s, f.search = some s → Text.isBlank s = false → a.Mentions d (Text.trim s)

/-! ### Single filters -/

theorem OneOrMany.contains_iff {α : Type} [BEq α] [LawfulBEq α] {wanted : OneOrMany α} {a : α} :
  wanted.contains a = true ↔ wanted.Means a
  := by
  cases wanted with
  | one b =>
    rw [contains, Means, beq_iff_eq]
    exact eq_comm
  | many l => exact List.contains_iff_mem

namespace Filters

variable {f : Filters} {a : Application} {d : Directory}

theorem admits_iff {α : Type} {wanted : Option α} {ok : α → Bool} :
  admits wanted ok = true ↔ ∀ a, wanted = some a → ok a = true
  := by
  cases wanted with
  | none => simp [admits]
  | some a => simp [admits]

/-- A value lies within bounds if it is there, or if there are no bounds. -/
theorem admitsScore_iff {score : Option Nat} :
  f.admitsScore score = true
    ↔ (∀ n, f.scoreMin = some n → ∃ s, score = some s ∧ n ≤ s)
      ∧ ∀ n, f.scoreMax = some n → ∃ s, score = some s ∧ s ≤ n
  := by
  cases score with
  | none => simp [admitsScore, Option.eq_none_iff_forall_ne_some]
  | some s => simp [admitsScore, admits_iff]

theorem within_iff {start finish time : Option Time.Instant} :
  within start finish time = true
    ↔ (∀ s, start = some s → ∃ t, time = some t ∧ s ≤ t)
      ∧ ∀ e, finish = some e → ∃ t, time = some t ∧ t ≤ e
  := by
  cases time with
  | none => simp [within, Option.eq_none_iff_forall_ne_some]
  | some t => simp [within, admits_iff]

theorem hasText_iff {notes : Option String} :
  hasText notes = true ↔ ∃ s, notes = some s ∧ Text.isBlank s = false
  := by
  simp [hasText, Option.any_eq_true]

theorem beq_hasText_iff {wanted : Bool} {notes : Option String} :
  (wanted == hasText notes) = true
    ↔ (wanted = true ↔ ∃ s, notes = some s ∧ Text.isBlank s = false)
  := by
  rw [← hasText_iff, beq_iff_eq, Bool.eq_iff_iff]

theorem hasTags_iff {tags : TextSet} :
  (f.tags.isEmpty || f.tags.any tags.contains) = true
    ↔ (f.tags ≠ [] → ∃ tag ∈ f.tags, tag ∈ tags.toList)
  := by
  rw [Bool.or_eq_true, List.isEmpty_iff, List.any_eq_true, ← or_iff_not_imp_left]
  simp only [TextSet.contains, List.contains_iff_mem]

end Filters

/-! ### Texts -/

/-- The text that a search looks for, with the users and the pets that a directory finds it
in. -/
def Directory.textSearch (d : Directory) (s : Option String) : Option TextSearch :=
  (Text.nonBlank s).map fun s =>
    ⟨TextSearch.needleOf s, d.matchingUsers (TextSearch.needleOf s),
      d.matchingPets (TextSearch.needleOf s)⟩

section

variable {a : Application} {d : Directory} {s needle : String}

theorem Text.contains_lowercase_iff :
  Text.contains (Text.lowercase s) (Text.lowercase needle) = true ↔ Text.Mentions s needle
  := by
  rw [Text.contains, Text.occursIn_iff, Mentions]

/-- The directory takes the text in lowercase once more, which changes nothing. -/
theorem Directory.holds_lowercase_iff :
  holds s (Text.lowercase needle) = true ↔ Text.Mentions s needle
  := by
  rw [holds, Text.lowercase_lowercase, Text.contains_lowercase_iff]

theorem Directory.mem_matchingUsers_iff {user : UserId} :
  user ∈ d.matchingUsers (Text.lowercase needle)
    ↔ ∃ u ∈ d.users, u.userId = user
      ∧ (Text.Mentions (u.firstName ++ " " ++ u.lastName) needle ∨ Text.Mentions u.email needle)
  := by
  simp only [matchingUsers, List.mem_map, List.mem_filter, Bool.or_eq_true, holds_lowercase_iff]
  constructor
  · rintro ⟨u, ⟨hu, hfound⟩, huser⟩
    exact ⟨u, hu, huser, hfound⟩
  · rintro ⟨u, hu, huser, hfound⟩
    exact ⟨u, ⟨hu, hfound⟩, huser⟩

theorem Directory.mem_matchingPets_iff {pet : PetId} :
  pet ∈ d.matchingPets (Text.lowercase needle)
    ↔ ∃ p ∈ d.pets, p.petId = pet
      ∧ (Text.Mentions p.name needle ∨ ∃ breed, p.breed = some breed ∧ Text.Mentions breed needle)
  := by
  simp only [matchingPets, List.mem_map, List.mem_filter, Bool.or_eq_true, Option.any_eq_true,
    holds_lowercase_iff]
  constructor
  · rintro ⟨p, ⟨hp, hfound⟩, hpet⟩
    exact ⟨p, hp, hpet, hfound⟩
  · rintro ⟨p, hp, hpet, hfound⟩
    exact ⟨p, ⟨hp, hfound⟩, hpet⟩

theorem TextSearch.foundIn_iff {users : List UserId} {pets : List PetId} {notes : Option String} :
  (TextSearch.mk (Text.lowercase needle) users pets).foundIn notes = true
    ↔ ∃ s, notes = some s ∧ Text.Mentions s needle
  := by
  simp only [foundIn, Option.any_eq_true, Text.contains_lowercase_iff]

theorem TextSearch.finds_iff :
  (TextSearch.mk (Text.lowercase needle) (d.matchingUsers (Text.lowercase needle))
      (d.matchingPets (Text.lowercase needle))).finds a = true
    ↔ a.Mentions d needle
  := by
  simp only [finds, Bool.or_eq_true, List.contains_iff_mem, Directory.mem_matchingUsers_iff,
    Directory.mem_matchingPets_iff, foundIn_iff, Application.Mentions]
  constructor
  · rintro (((((huser | hpet) | ⟨s, hs, h⟩) | ⟨s, hs, h⟩) | ⟨s, hs, h⟩) | ⟨s, hs, h⟩)
    · exact .inr (.inl huser)
    · exact .inr (.inr hpet)
    all_goals exact .inl ⟨s, by simp [hs], h⟩
  · rintro (⟨s, hs | hs | hs | hs, h⟩ | huser | hpet)
    · exact .inl (.inl (.inl (.inr ⟨s, hs, h⟩)))
    · exact .inl (.inl (.inr ⟨s, hs, h⟩))
    · exact .inl (.inr ⟨s, hs, h⟩)
    · exact .inr ⟨s, hs, h⟩
    · exact .inl (.inl (.inl (.inl (.inl huser))))
    · exact .inl (.inl (.inl (.inl (.inr hpet))))

/-- An application is found by a text that is not blank if it mentions what is left of the text
after trimming. -/
theorem Directory.textSearch_finds_iff {search : Option String} :
  Filters.admits (d.textSearch search) (fun t => t.finds a) = true
    ↔ ∀ s, search = some s → Text.isBlank s = false → a.Mentions d (Text.trim s)
  := by
  cases search with
  | none => simp [textSearch, Text.nonBlank, Filters.admits]
  | some s =>
    cases hblank : Text.isBlank s with
    | true => simp [textSearch, Text.nonBlank, hblank, Filters.admits]
    | false =>
      have hsearch : d.textSearch (some s) = some ⟨Text.lowercase (Text.trim s),
          d.matchingUsers (Text.lowercase (Text.trim s)),
          d.matchingPets (Text.lowercase (Text.trim s))⟩ := by
        simp [textSearch, Text.nonBlank, hblank, TextSearch.needleOf, Text.trim_trim]
      rw [hsearch, Filters.admits, TextSearch.finds_iff]
      simp [hblank]

end

/-- What a search finds is what its filters ask for, and what is deleted only if they ask for
that too. -/
theorem Filters.wants_iff {f : Filters} {d : Directory} {a : Application} :
  (f.passedBy a && admits (d.textSearch f.search) (fun t => t.finds a)) = true
    ↔ f.Wants d a ∧ (a.isDeleted = true → f.includeDeleted = true)
  := by
  have hdeleted : (!a.isDeleted || f.includeDeleted) = true
      ↔ (a.isDeleted = true → f.includeDeleted = true) := by
    cases a.isDeleted with
    | true => simp
    | false => simp
  rw [passedBy]
  simp only [Bool.and_eq_true, hdeleted, hasTags_iff, within_iff, admitsScore_iff,
    Directory.textSearch_finds_iff]
  simp only [admits_iff, OneOrMany.contains_iff, beq_hasText_iff]
  simp only [beq_iff_eq, Option.some.injEq, exists_eq_left']
  constructor
  · rintro ⟨⟨⟨⟨⟨⟨⟨⟨⟨⟨⟨⟨⟨hdeleted, hstatus⟩, hpriority⟩, huser⟩, hpet⟩, hrescue⟩, hactioned⟩,
      hmin, hmax⟩, htags⟩, hinterview⟩, hvisit⟩, hcreated, hcreated'⟩, hsubmitted, hsubmitted'⟩, hsearch⟩
    exact ⟨⟨hstatus, hpriority, huser, hpet, hrescue, hactioned, hmin, hmax, htags, hinterview,
      hvisit, hcreated, hcreated', hsubmitted, hsubmitted', hsearch⟩, hdeleted⟩
  · rintro ⟨h, hdeleted⟩
    exact ⟨⟨⟨⟨⟨⟨⟨⟨⟨⟨⟨⟨⟨hdeleted, h.status⟩, h.priority⟩, h.userId⟩, h.petId⟩, h.rescueId⟩,
      h.actionedBy⟩, h.scoreMin, h.scoreMax⟩, h.tags⟩, h.interviewNotes⟩, h.homeVisitNotes⟩,
      h.createdFrom, h.createdTo⟩, h.submittedFrom, h.submittedTo⟩, h.search⟩

end Rehoming
