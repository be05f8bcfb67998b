import Rehoming.Demo.Cast
import Rehoming.Proofs.Store.Records
import Mathlib.Data.List.Induction
/-!
# The constraint on active applications

The store is asked to insert and to update records, of any shape and in any order, and refuses
what it does not take.  An insertion looks for an active application of the same applicant for
the same pet, and an update does not.  So active applications have pairs of their own until an
update makes a record active, or moves an active one, whose pair another active one has.
-/

namespace Rehoming

/-- A write that the store is asked for. -/
inductive StoreWrite where
  | insert (a : Application)
  | update (a : Application) (expected : Nat)

namespace Records

/-- The store after a write that it takes or refuses. -/
def write (records : Records) : StoreWrite → Records
  | .insert a =>
    match records.insert a with
    | .ok later => later
    | .error _ => records
  | .update a expected =>
    match records.update a expected with
    | .ok (_, later) => later
    | .error _ => records

/-- The store after some writes, one after the other. -/
def writeAll (records : Records) (writes : List StoreWrite) : Records :=
  writes.foldl write records

theorem writeAll_append (records : Records) (writes : List StoreWrite) (w : StoreWrite) :
  records.writeAll (writes ++ [w]) = (records.writeAll writes).write w
  := List.foldl_append

end Records

/-- Whether a write is an update that the store takes, and that puts an active record beside an
active one of another name, of the same applicant for the same pet. -/
def StoreWrite.Intrudes (records : Records) : StoreWrite → Prop
  | .insert _ => False
  | .update a expected =>
    (∃ current, records.find? a.applicationId = some current ∧ current.version = expected)
    ∧ a.isActive = true
    ∧ ∃ b ∈ records, b.applicationId ≠ a.applicationId ∧ b.isActive = true
      ∧ Records.samePair b a = true

namespace Records

variable {records : Records}

/-- A write leaves records apart unless it intrudes. -/
theorem Unique.write_iff (h : records.Unique) (w : StoreWrite) :
  (records.write w).Unique ↔ ¬w.Intrudes records
  := by
  cases w with
  | insert a =>
    simp only [write, StoreWrite.Intrudes, not_false_eq_true, iff_true]
    cases hinsert : records.insert a with
    | ok later => exact h.insert hinsert
    | error e => exact h
  | update a expected =>
    cases hupdate : records.update a expected with
    | ok r =>
      have hwrite : records.write (.update a expected) = r.2 := by rw [write, hupdate]
      obtain ⟨current, hcurrent, hversion, hwritten, hlater⟩ := update_eq_ok_iff.mp hupdate
      rw [hwrite, hlater, hwritten,
        h.replace_iff (a := { a with version := expected + 1 }) hcurrent]
      simp only [StoreWrite.Intrudes, hcurrent, Option.some.injEq, exists_eq_left', hversion,
        true_and, not_and, not_exists, Bool.not_eq_true]
      rfl
    | error e =>
      have hwrite : records.write (.update a expected) = records := by rw [write, hupdate]
      rw [hwrite, iff_true_left h]
      rintro ⟨⟨current, hcurrent, hversion⟩, -⟩
      have htaken := update_eq_ok_iff.mpr ⟨current, hcurrent, hversion, rfl, rfl⟩
      rw [hupdate] at htaken
      cases htaken

/-- In a store that is empty at first, active records are apart after each of some writes if and
only if none of the writes intrudes. -/
theorem active_pairs_apart_iff (writes : List StoreWrite) :
  (∀ earlier, earlier <+: writes → (writeAll [] earlier).Unique)
    ↔ ∀ earlier w, earlier ++ [w] <+: writes → ¬w.Intrudes (writeAll [] earlier)
  := by
  constructor
  · intro hunique earlier w hprefix
    have hbefore : (writeAll [] earlier).Unique :=
      hunique earlier ((List.prefix_append earlier [w]).trans hprefix)
    rw [← hbefore.write_iff, ← writeAll_append]
    exact hunique (earlier ++ [w]) hprefix
  · intro halone earlier hprefix
    induction earlier using List.reverseRecOn with
    | nil => exact List.Pairwise.nil
    | append_singleton earlier w ih =>
      have hbefore : (writeAll [] earlier).Unique :=
        ih ((List.prefix_append earlier [w]).trans hprefix)
      rw [writeAll_append, hbefore.write_iff]
      exact halone earlier w hprefix

end Records

namespace Demo

/-- An application of the adopter for the first pet. -/
def filed (name : String) : Application :=
  (submission rufus).application ⟨name⟩ adopter.userId rufus.petId rescue ⟨0⟩ 30

/-- One application is filed beside another one that has been withdrawn, and the other one is
then put back to waiting. -/
def revival : List StoreWrite :=
  [.insert (filed "app-1"), .insert { filed "app-2" with status := .withdrawn },
   .update (filed "app-2") 0]

/-- The store then holds two active applications of the adopter for the same pet. -/
theorem revival_unnoticed :
  ∃ a ∈ Records.writeAll [] revival, ∃ b ∈ Records.writeAll [] revival,
    a.applicationId ≠ b.applicationId ∧ a.isActive = true ∧ b.isActive = true
    ∧ a.userId = b.userId ∧ a.petId = b.petId
  := by decide +kernel

end Demo

end Rehoming
