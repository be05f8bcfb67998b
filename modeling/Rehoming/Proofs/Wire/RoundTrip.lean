import Rehoming.Demo.Cast
import Rehoming.Proofs.Json.Text
import Rehoming.Proofs.Wire.Record
/-!
# From records to texts and back

Applications, answers, filters and patches are read back from the documents that they are
written as, and from the texts of these.  A text is read only as deep as the reader goes and its
doubles only as well as their texts tell them, so that this is asked of the document before its
text is.
-/

namespace Rehoming

open Json (Decoder Plain)

variable {α : Type}

/-! ### Plain documents -/

namespace Json

theorem Plain.nat {n : Nat} (h : n < Number.wordLimit 64) :
  Plain (.nat n)
  := by
  apply Plain.int
  · have hword : 0 ≤ (Number.wordLimit 63 : Int) := by decide
    omega
  · exact Int.ofNat_lt.mpr h

theorem Plain.score {score : Option Nat} (h : ∀ n ∈ score, n < scoreLimit) :
  ∀ n ∈ score, Plain (.nat n)
  := by
  intro n hn
  exact .nat (Nat.lt_trans (h n hn) (by decide))

theorem Plain.map {f : α → Json} {l : List α} (h : ∀ a ∈ l, Plain (f a)) :
  Plain (.arr (l.map f))
  := by
  apply Plain.arr
  intro j hj
  obtain ⟨a, ha, rfl⟩ := List.mem_map.mp hj
  exact h a ha

theorem Plain.strings (l : List String) :
  Plain (.strings l)
  := Plain.map fun s _ => .str s

theorem Plain.orNull {f : α → Json} {o : Option α} (h : ∀ a ∈ o, Plain (f a)) :
  Plain (.orNull f o)
  := by
  cases o with
  | none => exact .null
  | some a => exact h a rfl

theorem Plain.optional {key : String} {f : α → Json} {o : Option α} (h : ∀ a ∈ o, Plain (f a)) :
  ∀ m ∈ Json.optional key f o, Plain m.2
  := by
  cases o with
  | none => exact List.forall_mem_nil _
  | some a =>
    intro m hm
    obtain rfl := List.mem_singleton.mp hm
    exact h a rfl

end Json

theorem Answer.plain_toJson {a : Answer} (h : a.WellFormed) :
  Plain a.toJson
  := by
  induction h with
  | boolean b => exact .bool b
  | number => exact .real _
  | text s => exact .str s
  | choices l => exact .strings l
  | @group members _ _ ih =>
    rw [toJson, membersToJson_eq_map]
    apply Plain.obj
    intro _ hwritten
    obtain ⟨m, hm, rfl⟩ := List.mem_map.mp hwritten
    exact ih m hm

theorem Reference.plain_toJson (r : Reference) :
  Plain r.toJson
  := by
  apply Plain.obj
  simp only [List.forall_mem_append, List.forall_mem_cons]
  exact ⟨⟨⟨⟨⟨.str _, .str _, .str _, .str _, List.forall_mem_nil _⟩, .optional fun _ _ => .str _⟩, .str _, List.forall_mem_nil _⟩,
    .optional fun _ _ => .str _⟩, .optional fun _ _ => .str _⟩

theorem Document.plain_toJson (d : Document) :
  Plain d.toJson
  := by
  apply Plain.obj
  simp only [List.forall_mem_cons]
  exact ⟨.str _, .str _, .str _, .str _, .str _, .bool _, List.forall_mem_nil _⟩

theorem Application.plain_toJson {a : Application} (h : a.WellFormed) :
  Plain a.toJson
  := by
  have hanswers : Plain (Answers.toJson a.answers) :=
    Answer.plain_toJson (.group h.answers.ordered h.answers.members)
  apply Plain.obj
  simp only [members, List.forall_mem_cons]
  exact ⟨.str _, .str _, .str _, .str _, .str _, .str _, .str _, hanswers,
    .map fun r _ => r.plain_toJson, .map fun d _ => d.plain_toJson, .orNull fun _ _ => .str _,
    .orNull fun _ _ => .str _, .orNull fun _ _ => .str _, .orNull fun _ _ => .str _,
    .orNull (.score h.score), .strings _, .str _, .str _, .nat h.version, .orNull fun _ _ => .str _,
    .orNull fun _ _ => .str _, .orNull fun _ _ => .str _, .orNull fun _ _ => .str _,
    .orNull fun _ _ => .str _, .orNull fun _ _ => .str _, .orNull fun _ _ => .str _, List.forall_mem_nil _⟩

theorem OneOrMany.plain_toJson {f : α → Json} (h : ∀ a, Plain (f a)) (v : OneOrMany α) :
  Plain (toJson f v)
  := by
  cases v with
  | one a => exact h a
  | many l => exact .map fun a _ => h a

theorem Filters.plain_toJson {f : Filters} (h : f.WellFormed) :
  Plain f.toJson
  := by
  have htags : ∀ m ∈ (if f.tags.isEmpty then [] else [("tags", Json.strings f.tags)]),
      Plain m.2 := by
    split
    · exact List.forall_mem_nil _
    · exact List.forall_mem_singleton.mpr (.strings _)
  have hdeleted : ∀ m ∈ (if f.includeDeleted then [("include_deleted", Json.bool true)] else []),
      Plain m.2 := by
    split
    · exact List.forall_mem_singleton.mpr (.bool _)
    · exact List.forall_mem_nil _
  apply Plain.obj
  simp only [List.forall_mem_append, and_assoc]
  exact ⟨.optional fun v _ => OneOrMany.plain_toJson (fun _ => .str _) v,
    .optional fun v _ => OneOrMany.plain_toJson (fun _ => .str _) v,
    .optional fun _ _ => .str _, .optional fun _ _ => .str _, .optional fun _ _ => .str _,
    .optional fun _ _ => .str _, .optional (.score h.scoreMin), .optional (.score h.scoreMax),
    htags, .optional fun _ _ => .str _, .optional fun _ _ => .bool _,
    .optional fun _ _ => .bool _, .optional fun _ _ => .str _, .optional fun _ _ => .str _,
    .optional fun _ _ => .str _, .optional fun _ _ => .str _, hdeleted⟩

theorem Patch.plain_toJson (p : Patch) :
  Plain p.toJson
  := by
  apply Plain.obj
  simp only [List.forall_mem_append, and_assoc]
  exact ⟨.optional fun _ _ => .str _, .optional fun _ _ => .str _, .optional fun _ _ => .strings _,
    .optional fun _ _ => .str _⟩

/-! ### There and back -/

/-- What is written of a value is read as the value: the document, however deep it is nested, and its
text if the doubles in it are read back from theirs and it is nested no deeper than the reader goes.
Texts that are nested deeper than `depthLimit` the reader refuses. -/
structure Json.RoundTrips (write : α → Json) (read : Decoder α) (a : α) : Prop where
  document : read (write a) = .ok a
  text : (write a).nesting ≤ depthLimit → (∀ x ∈ (write a).doubles, x.ReadsBack) →
    read (ofText (write a).text) = .ok a

theorem Json.RoundTrips.of_plain {write : α → Json} {read : Decoder α} {a : α}
    (hread : read (write a) = .ok a) (hplain : Plain (write a)) :
  RoundTrips write read a
  where
  document := hread
  text hnesting hdoubles := by rw [hplain.ofText_text hnesting hdoubles, hread]

/-- Applications, answers, filters and patches are read back from what is written of them, as
documents always and as texts up to the depth that the reader goes to; and
what is read as an answer is a truth value, a number, a string, an array of strings, or an object
whose members are read as answers. -/
theorem written_values_read_back :
  (∀ a : Application, a.WellFormed → Json.RoundTrips Application.toJson Application.ofJson a)
  ∧ (∀ a : Answer, a.WellFormed → Json.RoundTrips Answer.toJson Answer.ofJson a)
  ∧ (∀ f : Filters, f.WellFormed → Json.RoundTrips Filters.toJson Filters.ofJson f)
  ∧ (∀ p : Patch, Json.RoundTrips Patch.toJson Patch.ofJson p)
  ∧ ∀ j : Json, (∃ a, Answer.ofJson j = .ok a) ↔
      (∃ b, j = .bool b) ∨ (∃ n, j = .int n) ∨ (∃ x, j = .real x) ∨ (∃ s, j = .str s)
      ∨ (∃ l, j = Json.strings l)
      ∨ ∃ members, j = .obj members ∧ ∀ m ∈ members, ∃ a, Answer.ofJson m.2 = .ok a
  := by
  refine ⟨fun a h => ?_, fun a h => ?_, fun f h => ?_, fun p => ?_, fun j => Answer.ofJson_ok_iff⟩
  · exact .of_plain (Application.inverts_toJson h).reads (Application.plain_toJson h)
  · exact .of_plain (Answer.ofJson_toJson h) (Answer.plain_toJson h)
  · exact .of_plain (Filters.inverts_toJson h).reads (Filters.plain_toJson h)
  · exact .of_plain p.inverts_toJson.reads p.plain_toJson

/-! ### Answers inside answers -/

namespace Demo

/-- The first of March 2025, nine o'clock and a quarter of a second. -/
def morning : Time.Instant := .ofSeconds 1740819600 250000000

/-- Two acres and a half. -/
def acres : Double := .ofRatio false 5 2

/-- Groups inside groups, next to an empty group and an empty list. -/
def nestedAnswers : Answers :=
  [("home", .group
      [("garden", .group [("acres", .number acres), ("fenced", .boolean true)]),
       ("kind", .text "house \"by the sea\"")]),
   ("pets", .choices []),
   ("vet", .group [])]

/-- An application with everything in it that can be written. -/
def nested : Application where
  applicationId := ⟨"app-1"⟩
  userId := adopter.userId
  petId := rufus.petId
  rescueId := rescue
  status := .approved
  priority := .high
  stage := .resolved
  answers := nestedAnswers
  references := Reference.seed references
  documents := [⟨"doc-1", "deed", "deed.pdf", "https://files.example/deed.pdf", morning, true⟩]
  notes := some "Calls after six\n\nHome visit went well"
  interviewNotes := none
  homeVisitNotes := some ""
  rejectionReason := none
  score := some 92
  tags := .ofList ["garden", "cats"]
  createdAt := morning
  updatedAt := morning.addMinutes 90
  version := 3
  submittedAt := some morning
  decisionAt := some (morning.addMinutes 90)
  actionedBy := some staff.userId
  actionedAt := some (morning.addMinutes 90)
  expiresAt := morning.addDays? 30
  followUpDate := none
  deletedAt := none

/-- Filters of every kind of mark. -/
def manyFilters : Filters where
  status := some (.many [.submitted, .approved])
  priority := some (.one .high)
  scoreMin := some 50
  tags := ["cats"]
  createdFrom := some morning
  includeDeleted := true

theorem acres_readsBack :
  acres.ReadsBack
  := by
  have htext : acres.text = "2.5" := by decide +kernel
  have hparts : Json.readScalar "2.5".toList = (Json.ofScaled false 25 (-1), some []) := rfl
  have hscale : Json.scale 8 (Double.ofNat 25) (-1) = some acres := by decide +kernel
  rw [Double.ReadsBack, htext, hparts, Json.ofScaled, hscale]
  rfl

theorem nestedAnswers_wellFormed :
  Answers.WellFormed nestedAnswers
  := by
  have hgarden : Answer.WellFormed
      (.group [("acres", .number acres), ("fenced", .boolean true)]) := by
    apply Answer.WellFormed.group (by decide +kernel)
    simp only [List.forall_mem_cons]
    exact ⟨.number (by decide +kernel), .boolean true, List.forall_mem_nil _⟩
  refine ⟨by decide +kernel, ?_⟩
  simp only [nestedAnswers, List.forall_mem_cons]
  refine ⟨.group (by decide +kernel) ?_, .choices [], .group (by decide) (List.forall_mem_nil _),
    List.forall_mem_nil _⟩
  simp only [List.forall_mem_cons]
  exact ⟨hgarden, .text _, List.forall_mem_nil _⟩

theorem nested_wellFormed :
  nested.WellFormed
  where
  answers := nestedAnswers_wellFormed
  score := by decide
  version := by decide +kernel
  times := by decide +kernel

theorem manyFilters_wellFormed :
  manyFilters.WellFormed
  where
  scoreMin := by decide
  scoreMax := by decide
  times := by decide +kernel

end Demo

/-- An application, its answers as one answer, and filters come back from their texts. -/
theorem nested_application_reads_back :
  Application.ofJson (Json.ofText Demo.nested.toJson.text) = .ok Demo.nested
  ∧ Answer.ofJson (Json.ofText (Answer.group Demo.nestedAnswers).toJson.text)
    = .ok (.group Demo.nestedAnswers)
  ∧ Filters.ofJson (Json.ofText Demo.manyFilters.toJson.text) = .ok Demo.manyFilters
  := by
  obtain ⟨happlication, hanswer, hfilters, -, -⟩ := written_values_read_back
  have hacres {j : Json} (h : j.doubles = [Demo.acres]) : ∀ x ∈ j.doubles, x.ReadsBack := by
    rw [h]
    exact List.forall_mem_singleton.mpr Demo.acres_readsBack
  have hanswers := Demo.nestedAnswers_wellFormed
  refine ⟨?_, ?_, ?_⟩
  · apply (happlication _ Demo.nested_wellFormed).text
    · decide +kernel
    · exact hacres (by decide +kernel)
  · apply (hanswer _ (.group hanswers.ordered hanswers.members)).text
    · decide +kernel
    · exact hacres (by decide +kernel)
  · apply (hfilters _ Demo.manyFilters_wellFormed).text
    · decide +kernel
    · have hnone : Demo.manyFilters.toJson.doubles = [] := by decide +kernel
      rw [hnone]
      exact List.forall_mem_nil _

end Rehoming
