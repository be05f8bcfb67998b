import Rehoming.Proofs.Json.Shape
import Rehoming.Proofs.Time.Rfc3339
import Rehoming.Proofs.Wire.Answer
import Rehoming.Wire.Request
import Rehoming.Wire.Search
/-!
# Records that are read back

Applications, filters and patches are read back from what is written of them, member by member:
what is left out is read as missing, and what is null as nothing.
-/

namespace Rehoming

open Json (Decoder Shape)
open Json.Decoder (Inverts inverts_text inverts_bool inverts_nat inverts_label inverts_list
  inverts_strings inverts_textSet)
open Json.Shape (Reads)

/-! ### Marks -/

theorem ApplicationId.inverts_toJson (id : ApplicationId) :
  Inverts ofJson toJson id
  := ⟨rfl, nofun⟩

theorem UserId.inverts_toJson (id : UserId) :
  Inverts ofJson toJson id
  := ⟨rfl, nofun⟩

theorem PetId.inverts_toJson (id : PetId) :
  Inverts ofJson toJson id
  := ⟨rfl, nofun⟩

theorem RescueId.inverts_toJson (id : RescueId) :
  Inverts ofJson toJson id
  := ⟨rfl, nofun⟩

theorem Status.inverts_toJson (s : Status) :
  Inverts ofJson toJson s
  := inverts_label (by cases s <;> rfl)

theorem Priority.inverts_toJson (p : Priority) :
  Inverts ofJson toJson p
  := inverts_label (by cases p <;> rfl)

theorem Stage.inverts_toJson (s : Stage) :
  Inverts ofJson toJson s
  := inverts_label (by cases s <;> rfl)

theorem ReferenceStatus.inverts_toJson (s : ReferenceStatus) :
  Inverts ofJson toJson s
  := inverts_label (by cases s <;> rfl)

namespace Time.Instant

theorem Writable.inverts {t : Instant} (h : t.Writable) :
  Inverts Decoder.instant toJson t
  where
  reads := by simp [Decoder.instant, toJson, h.ofText?_text]
  ne_null := nofun

end Time.Instant

/-! ### Applications -/

theorem Reference.inverts_toJson {r : Reference} (h : ∀ t ∈ r.contactedAt, t.Writable) :
  Inverts shape.decode toJson r
  := by
  have hreads : shape.Reads _ r :=
    (Reads.required (inverts_text r.id)).map Reference.mk
      |>.seq (.required (inverts_text r.name))
      |>.seq (.required (inverts_text r.relationship))
      |>.seq (.required (inverts_text r.phone))
      |>.seq (.optional fun email _ => inverts_text email)
      |>.seq (.required r.status.inverts_toJson)
      |>.seq (.optional fun notes _ => inverts_text notes)
      |>.seq (.optional fun t ht => (h t ht).inverts)
  exact hreads.inverts (by decide) rfl

theorem Document.inverts_toJson {d : Document} (h : d.uploadedAt.Writable) :
  Inverts shape.decode toJson d
  := by
  have hreads : shape.Reads _ d :=
    (Reads.required (inverts_text d.documentId)).map Document.mk
      |>.seq (.required (inverts_text d.documentType))
      |>.seq (.required (inverts_text d.fileName))
      |>.seq (.required (inverts_text d.fileUrl))
      |>.seq (.required h.inverts)
      |>.seq (.required (inverts_bool d.verified))
  exact hreads.inverts (by decide) rfl

namespace Application

/-- The timestamps of an application, those of its references and documents among them, with
`none` for those that are missing. -/
def times (a : Application) : List (Option Time.Instant) :=
  [some a.createdAt, some a.updatedAt, a.submittedAt, a.decisionAt, a.actionedAt, a.expiresAt,
    a.followUpDate, a.deletedAt]
  ++ a.references.map (·.contactedAt) ++ a.documents.map (some ·.uploadedAt)

/-- An application such as there is: its answers are, its numbers fit into their words, and its
timestamps can be written. -/
structure WellFormed (a : Application) : Prop where
  answers : Answers.WellFormed a.answers
  score : ∀ score ∈ a.score, score < scoreLimit
  version : a.version < versionLimit
  times : ∀ time ∈ a.times, ∀ t ∈ time, t.Writable

theorem inverts_toJson {a : Application} (h : a.WellFormed) :
  Inverts ofJson toJson a
  := by
  have htime {time : Option Time.Instant} (hin : time ∈ a.times) :
      ∀ t ∈ time, Inverts Decoder.instant Time.Instant.toJson t :=
    fun t ht => (h.times time hin t ht).inverts
  have hreferences : ∀ r ∈ a.references, Inverts Reference.shape.decode Reference.toJson r := by
    intro r hr
    apply Reference.inverts_toJson
    apply h.times
    exact List.mem_append_left _ (List.mem_append_right _ (List.mem_map_of_mem hr))
  have hdocuments : ∀ d ∈ a.documents, Inverts Document.shape.decode Document.toJson d := by
    intro d hd
    apply Document.inverts_toJson
    apply h.times (some d.uploadedAt) _ _ rfl
    exact List.mem_append_right _ (List.mem_map_of_mem hd)
  have hreads : shape.Reads _ a :=
    (Reads.required a.applicationId.inverts_toJson).map Application.mk
      |>.seq (.required a.userId.inverts_toJson)
      |>.seq (.required a.petId.inverts_toJson)
      |>.seq (.required a.rescueId.inverts_toJson)
      |>.seq (.required a.status.inverts_toJson)
      |>.seq (.required a.priority.inverts_toJson)
      |>.seq (.required a.stage.inverts_toJson)
      |>.seq (.required (Answers.inverts_toJson h.answers))
      |>.seq (.required (inverts_list hreferences))
      |>.seq (.required (inverts_list hdocuments))
      |>.seq (.nullable fun s _ => inverts_text s)
      |>.seq (.nullable fun s _ => inverts_text s)
      |>.seq (.nullable fun s _ => inverts_text s)
      |>.seq (.nullable fun s _ => inverts_text s)
      |>.seq (.nullable fun n hn => inverts_nat (h.score n hn))
      |>.seq (.required (inverts_textSet a.tags))
      |>.seq (.required (htime (by simp [times]) a.createdAt (Option.mem_some_self _)))
      |>.seq (.required (htime (by simp [times]) a.updatedAt (Option.mem_some_self _)))
      |>.seq (.default (inverts_nat h.version))
      |>.seq (.nullable (htime (by simp [times])))
      |>.seq (.nullable (htime (by simp [times])))
      |>.seq (.nullable fun user _ => user.inverts_toJson)
      |>.seq (.nullable (htime (by simp [times])))
      |>.seq (.nullable (htime (by simp [times])))
      |>.seq (.nullable (htime (by simp [times])))
      |>.seq (.nullable (htime (by simp [times])))
  exact hreads.inverts (by decide +kernel)
    (by simp only [toJson, members, List.cons_append, List.nil_append])

end Application

/-! ### Filters -/

/-- One value and a list of values are told apart if no value is written as an array. -/
theorem OneOrMany.inverts_toJson {α : Type} {d : Decoder α} {f : α → Json}
    (hd : ∀ a, Inverts d f a) (hsound : ∀ a, (f a).isSound = true)
    (harr : ∀ js, d (.arr js) = .error .unreadable) (v : OneOrMany α) :
  Inverts (ofJson d) (toJson f) v
  := by
  cases v with
  | one a =>
    have hone : Inverts (ofSound d) (toJson f) (one a) :=
      ⟨by simp [ofSound, toJson, (hd a).reads], (hd a).ne_null⟩
    exact hone.buffered (hsound a)
  | many l =>
    have hlist : Decoder.list d (.arr (l.map f)) = .ok l := (inverts_list fun a _ => hd a).reads
    have hmany : Inverts (ofSound d) (toJson f) (many l) :=
      ⟨by simp [ofSound, toJson, harr, hlist, Except.map], nofun⟩
    apply hmany.buffered
    apply Json.isSound_arr_iff.mpr
    intro j hj
    obtain ⟨a, -, rfl⟩ := List.mem_map.mp hj
    exact hsound a

theorem Status.oneOrMany_inverts_toJson (v : OneOrMany Status) :
  Inverts (OneOrMany.ofJson ofJson) (OneOrMany.toJson toJson) v
  := OneOrMany.inverts_toJson inverts_toJson (fun _ => rfl) (fun _ => rfl) v

theorem Priority.oneOrMany_inverts_toJson (v : OneOrMany Priority) :
  Inverts (OneOrMany.ofJson ofJson) (OneOrMany.toJson toJson) v
  := OneOrMany.inverts_toJson inverts_toJson (fun _ => rfl) (fun _ => rfl) v

namespace Filters

/-- The timestamps of some filters, with `none` for those that are missing. -/
def times (f : Filters) : List (Option Time.Instant) :=
  [f.createdFrom, f.createdTo, f.submittedFrom, f.submittedTo]

/-- Filters such as there are: their scores fit into a byte, and their timestamps can be
written. -/
structure WellFormed (f : Filters) : Prop where
  scoreMin : ∀ score ∈ f.scoreMin, score < scoreLimit
  scoreMax : ∀ score ∈ f.scoreMax, score < scoreLimit
  times : ∀ time ∈ f.times, ∀ t ∈ time, t.Writable

theorem inverts_toJson {f : Filters} (h : f.WellFormed) :
  Inverts ofJson toJson f
  := by
  have htime {time : Option Time.Instant} (hin : time ∈ f.times) :
      ∀ t ∈ time, Inverts Decoder.instant Time.Instant.toJson t :=
    fun t ht => (h.times time hin t ht).inverts
  have hdeleted : Reads (.default "include_deleted" Decoder.bool false)
      (if f.includeDeleted then [("include_deleted", .bool true)] else []) f.includeDeleted := by
    cases f.includeDeleted with
    | false => exact .missing rfl
    | true => exact .present rfl
  have hreads : shape.Reads _ f :=
    (Reads.optional fun v _ => Status.oneOrMany_inverts_toJson v).map Filters.mk
      |>.seq (.optional fun v _ => Priority.oneOrMany_inverts_toJson v)
      |>.seq (.optional fun user _ => user.inverts_toJson)
      |>.seq (.optional fun pet _ => pet.inverts_toJson)
      |>.seq (.optional fun rescue _ => rescue.inverts_toJson)
      |>.seq (.optional fun user _ => user.inverts_toJson)
      |>.seq (.optional fun n hn => inverts_nat (h.scoreMin n hn))
      |>.seq (.optional fun n hn => inverts_nat (h.scoreMax n hn))
      |>.seq (.default_unless List.isEmpty_iff.mp (inverts_strings f.tags))
      |>.seq (.optional fun s _ => inverts_text s)
      |>.seq (.optional fun b _ => inverts_bool b)
      |>.seq (.optional fun b _ => inverts_bool b)
      |>.seq (.optional (htime (by simp [times])))
      |>.seq (.optional (htime (by simp [times])))
      |>.seq (.optional (htime (by simp [times])))
      |>.seq (.optional (htime (by simp [times])))
      |>.seq hdeleted
  exact hreads.inverts (by decide +kernel) rfl

end Filters

/-! ### Patches -/

theorem Patch.inverts_toJson (p : Patch) :
  Inverts ofJson toJson p
  := by
  have hreads : shape.Reads _ p :=
    (Reads.optional fun s _ => Status.inverts_toJson s).map Patch.mk
      |>.seq (.optional fun p _ => Priority.inverts_toJson p)
      |>.seq (.optional fun tags _ => inverts_textSet tags)
      |>.seq (.optional fun s _ => inverts_text s)
  exact hreads.inverts (by decide) rfl

end Rehoming
