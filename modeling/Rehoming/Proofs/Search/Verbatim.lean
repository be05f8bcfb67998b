import Rehoming.Demo.Cast
import Rehoming.Proofs.Search.Filters
import Rehoming.Proofs.Text.Sigma
/-!
# Texts as they stand in the notes

The notes on an application and the text that is looked for are put in lowercase apart from each
other.  A text that stands in the notes letter for letter is found if that makes no difference
to its capital sigmas, the only letters whose lowercase forms depend on their neighbours.
-/

namespace Rehoming

open Text

/-- A text as it is looked for in the notes on applications. -/
def TextSearch.inNotes (search : String) : TextSearch :=
  ⟨needleOf search, [], []⟩

/-- That a text is one of the notes on an application. -/
def Application.HasNote (a : Application) (note : String) : Prop :=
  a.notes = some note ∨ a.rejectionReason = some note ∨ a.interviewNotes = some note
    ∨ a.homeVisitNotes = some note

variable {a : Application} {search note : String} {front back : List Char}

theorem TextSearch.inNotes_finds_iff :
  (inNotes search).finds a = true ↔ ∃ note, a.HasNote note ∧ Mentions note (trim search)
  := by
  simp only [inNotes, needleOf, finds, List.contains_nil, Bool.false_or, Bool.or_eq_true,
    foundIn_iff, Application.HasNote, or_and_right, exists_or, or_assoc]

/-- No filters leave out what is deleted only. -/
theorem Filters.passedBy_of_none :
  ({} : Filters).passedBy a = !a.isDeleted
  := by
  have hscore : ({} : Filters).admitsScore a.score = true := by
    cases a.score with
    | none => rfl
    | some score => rfl
  have htime (time : Option Time.Instant) : within none none time = true := by
    cases time with
    | none => rfl
    | some t => rfl
  simp [passedBy, admits, hscore, htime]

/-- What stands in a text letter for letter stands in it in lowercase too, if its capital sigmas
keep their forms. -/
theorem Text.mentions_of_keepsSigmas {needle : String}
    (hverbatim : note.toList = front ++ needle.toList ++ back)
    (hsigmas : KeepsSigmas front.reverse needle.toList back) :
  Mentions note needle
  := by
  rw [Mentions, lowercase, lowercase, String.toList_ofList, String.toList_ofList, hverbatim]
  apply lowercaseAfter_infix hsigmas

/-- An application with a text in its notes, letter for letter but for white space at its ends, is
found by that text exactly if it is not deleted, provided that the capital sigmas of the text
have the lowercase forms at that place that they have in the text alone.  They do if there are
none of them, and if no word runs on over either end of the text. -/
theorem verbatim_found (c : Criteria) (a : Application) (search note : String)
    (front back : List Char) (hfilters : c.filters = {})
    (htext : c.text = some (TextSearch.inNotes search)) (hnote : a.HasNote note)
    (hverbatim : note.toList = front ++ (trim search).toList ++ back) :
  (KeepsSigmas front.reverse (trim search).toList back → c.finds a = !a.isDeleted)
  ∧ (capitalSigma ∉ (trim search).toList → c.finds a = !a.isDeleted)
  ∧ (startsCased front.reverse = false → startsCased back = false → c.finds a = !a.isDeleted)
  := by
  have hkept (hsigmas : KeepsSigmas front.reverse (trim search).toList back) :
      c.finds a = !a.isDeleted := by
    have hfound : (TextSearch.inNotes search).finds a = true :=
      TextSearch.inNotes_finds_iff.mpr ⟨note, hnote, mentions_of_keepsSigmas hverbatim hsigmas⟩
    rw [Criteria.finds, hfilters, Filters.passedBy_of_none, htext, Filters.admits, hfound,
      Bool.and_true]
  refine ⟨hkept, ?_, ?_⟩
  · intro hnone
    apply hkept (keepsSigmas_of_not_mem hnone)
  · intro hfront hback
    apply hkept (keepsSigmas_of_whole hfront hback)

namespace Demo

/-- An application of the adopter for the first pet, with notes on it. -/
def annotated (notes : String) : Application :=
  { submission rufus with notes := some notes }.application ⟨"app-1"⟩ adopter.userId rufus.petId
    rescue ⟨0⟩ 30

/-- The search for a text and nothing else. -/
def lookup (search : String) : Criteria :=
  { Criteria.of {} {} 20 100 with text := some (TextSearch.inNotes search) }

/-- The beginning of a name that ends in a sigma is not found: its sigma is a final one in the
text that is looked for and none in the name. -/
theorem beginning_missed :
  (lookup "ΚΩΣ").filters = {} ∧ (lookup "ΚΩΣ").text = some (TextSearch.inNotes "ΚΩΣ")
  ∧ isBlank "ΚΩΣ" = false ∧ (annotated "ΚΩΣΤΑΣ").HasNote "ΚΩΣΤΑΣ"
  ∧ "ΚΩΣΤΑΣ".toList = (trim "ΚΩΣ").toList ++ "ΤΑΣ".toList
  ∧ (annotated "ΚΩΣΤΑΣ").isDeleted = false ∧ (lookup "ΚΩΣ").finds (annotated "ΚΩΣΤΑΣ") = false
  := by
  refine ⟨rfl, rfl, by decide +kernel, .inl (by decide +kernel), ?_⟩
  decide +kernel

end Demo

/-- The street is found by its whole name, whatever stands around it. -/
theorem street_found :
  let c := Demo.lookup " ΟΔΟΣ "
  let a := Demo.annotated "ΜΕΓΑΛΗ ΟΔΟΣ, ΑΘΗΝΑ"
  capitalSigma ∈ (trim " ΟΔΟΣ ").toList ∧ c.filters = {} ∧ a.HasNote "ΜΕΓΑΛΗ ΟΔΟΣ, ΑΘΗΝΑ"
  ∧ c.finds a = true
  := by
  intro c a
  have hnote : a.HasNote "ΜΕΓΑΛΗ ΟΔΟΣ, ΑΘΗΝΑ" := .inl (by decide +kernel)
  have hverbatim : "ΜΕΓΑΛΗ ΟΔΟΣ, ΑΘΗΝΑ".toList
      = "ΜΕΓΑΛΗ ".toList ++ (trim " ΟΔΟΣ ").toList ++ ", ΑΘΗΝΑ".toList := by decide +kernel
  have hfound := (verbatim_found c a " ΟΔΟΣ " "ΜΕΓΑΛΗ ΟΔΟΣ, ΑΘΗΝΑ" _ _ rfl rfl hnote hverbatim).2.2
    (by decide +kernel) (by decide +kernel)
  exact ⟨by decide +kernel, rfl, hnote, hfound⟩

end Rehoming
