import Rehoming.Proofs.Performing.Checking
import Rehoming.Proofs.Service.Slots
import Rehoming.Proofs.Settings.Bounds
import Rehoming.Proofs.Sharing.Requests
/-!
# Lists of references keep their shape

Whatever clients do, every stored application has at least one slot and at most as many as there
may be, each named after its position, and no list gets shorter.  Submissions and edits make no
list longer than there may be references.  They run as they would where there may be no more
slots than references, so what is true of all amendments there is true of theirs.
-/

namespace Rehoming

/-- That an application has some slots, no more than there may be, and each in its place. -/
structure Application.InShape (policy : Policy) (a : Application) : Prop where
  aligned : Reference.Aligned 0 a.references
  some : 0 < a.references.length
  few : a.references.length ≤ policy.maxReferenceSlots

/-! ### Reports on slots -/

/-- A report on a slot by somebody who may make one changes the slot that is meant, which the
list has then if it had not had it before. -/
theorem World.perform_checkReference {policy : Policy} {w : World} {id : ApplicationId}
    {u : ReferenceUpdate} {actor : Actor} {a : Application} {index : Nat}
    (hindex : u.resolve policy.maxReferenceSlots = .ok index)
    (hfound : w.records.fetch id false = some a)
    (may : (actor.resolvedIn w.directory).mayDo .updateReference a = true) :
  ∃ stored, (w.perform (Service.checkReference policy id u actor)).1 = .ok stored
    ∧ stored.references = u.apply index (Reference.ensureSlot a.references index a.answers)
  := by
  obtain ⟨slot, previous, name, entry, hperform⟩ := perform_check hindex hfound may
  rw [hperform]
  exact ⟨_, rfl, rfl⟩

namespace System

variable {ι : Type} {policy : Policy} {requests : ι → Request}
  {s : System fun i => (requests i).Reply} {t : Turn ι} {m : Move ι} {id : ApplicationId}
  {a b : Application}

/-- The invariant behind the shape of the lists: submissions and edits go on as they would where
there may be no more slots than references, and every stored application is in shape. -/
structure Shaped (policy : Policy) (requests : ι → Request)
    (s : System fun i => (requests i).Reply) : Prop where
  orderly : Orderly policy requests s
  narrow : ∀ i, (requests i).FillsIn →
    (s.clients i).Obeys (Rule.ofAnyone policy.narrowed).discipline
  stored : ∀ a ∈ s.world.records, a.InShape policy

theorem shaped_start (w : Rehoming.World) :
  Shaped policy requests (ofRequests policy requests { w with records := [] })
  := by
  constructor
  case orderly => apply orderly_start
  case narrow =>
    intro i hfills
    have hobeys := (requests i).obeys (E := fun _ => True) (σ := {}) policy.narrowed
    rw [Request.service_narrowed hfills] at hobeys
    apply Service.obeys_any_iff.mp hobeys
  case stored => rintro a ⟨⟩

variable [DecidableEq ι]

theorem Shaped.move (h : Shaped policy requests s)
    (hroom : policy.maxReferences ≤ policy.maxReferenceSlots) (m : Move ι) :
  Shaped policy requests (s.move m)
  := by
  cases m with
  | refit directory questions => exact ⟨h.orderly.move _, h.narrow, h.stored⟩
  | turn t =>
    constructor
    case orderly => apply h.orderly.move
    case narrow =>
      intro i hfills
      apply client_obeys_turn (h.narrow i hfills) trivial
    case stored =>
      apply stored_turn (h.orderly.obeys t.client) h.orderly.sound _ _ h.stored
      · rintro now a ⟨actor, -, hsubmits⟩
        obtain ⟨haligned, hsome, hfew⟩ := hsubmits.slots
        exact ⟨haligned, hsome, Nat.le_trans hfew hroom⟩
      · rintro now before a ⟨actor, draft, -, hamends, rfl⟩ hbefore
        have hgrown := hamends.grown hroom
        constructor
        case aligned => apply hgrown.aligned hbefore.aligned
        case some => apply Nat.lt_of_lt_of_le hbefore.some hgrown.longer
        case few =>
          apply Nat.le_trans hgrown.bounded
          apply Nat.max_le.mpr ⟨hbefore.few, Nat.le_refl _⟩

/-- A move shortens no list. -/
theorem Shaped.longer_move (h : Shaped policy requests s)
    (hroom : policy.maxReferences ≤ policy.maxReferenceSlots) (m : Move ι)
    (ha : s.world.records.find? id = some a) :
  ∃ b, (s.move m).world.records.find? id = some b ∧ a.references.length ≤ b.references.length
  := by
  cases m with
  | refit directory questions => exact ⟨a, ha, Nat.le_refl _⟩
  | turn t =>
    obtain ⟨b, hb, rfl | ⟨now, c, ⟨actor, draft, -, hamends, rfl⟩, rfl⟩⟩ :=
      find?_turn (h.orderly.obeys t.client) h.orderly.sound ha
    · exact ⟨b, hb, Nat.le_refl _⟩
    · exact ⟨_, hb, (hamends.grown hroom).longer⟩

/-- A turn of a submission or of an edit makes no list longer than there may be references. -/
theorem Shaped.length_turn (h : Shaped policy requests s) (hfills : (requests t.client).FillsIn)
    (hb : b ∈ (s.turn t).world.records) :
  b.references.length ≤ policy.maxReferences
  ∨ ∃ a ∈ s.world.records, a.applicationId = b.applicationId
      ∧ b.references.length = a.references.length
  := by
  cases effect_turn (h.narrow t.client hfills) h.orderly.sound with
  | stay hrecords hjournal =>
    rw [hrecords] at hb
    exact .inr ⟨b, hb, rfl, rfl⟩
  | insertion now new hclock hrule hinserted hjournal =>
    obtain ⟨-, -, hrecords⟩ := Records.insert_eq_ok_iff.mp hinserted
    rw [hrecords] at hb
    obtain hb | hb := List.mem_append.mp hb
    · exact .inr ⟨b, hb, rfl, rfl⟩
    · obtain rfl := List.mem_singleton.mp hb
      obtain ⟨actor, -, hsubmits⟩ := hrule
      left
      apply hsubmits.slots.2.2
  | update now before new hclock hfound hrule hname hcurrent hdeleted hrecords hjournal =>
    rw [hrecords] at hb
    obtain rfl | ⟨hb, -⟩ := Records.mem_replace hb
    · obtain ⟨actor, draft, -, hamends, rfl⟩ := hrule
      have hgrown := hamends.grown (Nat.le_refl _)
      by_cases hfew : draft.references.length ≤ policy.maxReferences
      · left
        apply hfew
      · right
        use before, Records.mem_of_find? hcurrent, hname.symm
        have hbounded : draft.references.length
            ≤ max before.references.length policy.maxReferences := hgrown.bounded
        have hlonger := hgrown.longer
        change draft.references.length = before.references.length
        omega
    · exact .inr ⟨b, hb, rfl, rfl⟩

theorem shaped_run (hroom : policy.maxReferences ≤ policy.maxReferenceSlots) (w : Rehoming.World)
    (moves : List (Move ι)) :
  Shaped policy requests ((ofRequests policy requests { w with records := [] }).run moves)
  := by
  apply run_induction _ (shaped_start w)
  intro m _ s hs
  apply hs.move hroom

/-- Whatever happens later, a list keeps the names of its slots, and only gets new ones behind
them. -/
theorem Shaped.ids_prefix_run (h : Shaped policy requests s)
    (hroom : policy.maxReferences ≤ policy.maxReferenceSlots)
    (ha : s.world.records.find? id = some a) (moves : List (Move ι)) :
  ∃ b, (s.run moves).world.records.find? id = some b
    ∧ a.references.map (·.id) <+: b.references.map (·.id)
  := by
  have hlater : Shaped policy requests (s.run moves)
      ∧ ∃ b, (s.run moves).world.records.find? id = some b
        ∧ a.references.length ≤ b.references.length := by
    apply run_induction (P := fun s => Shaped policy requests s
      ∧ ∃ b, s.world.records.find? id = some b ∧ a.references.length ≤ b.references.length)
    · rintro m - s ⟨hs, b, hb, hlonger⟩
      use hs.move hroom m
      obtain ⟨c, hc, hlonger'⟩ := hs.longer_move hroom m hb
      exact ⟨c, hc, Nat.le_trans hlonger hlonger'⟩
    · exact ⟨h, a, ha, Nat.le_refl _⟩
  obtain ⟨hrun, b, hb, hlonger⟩ := hlater
  have haligned := (h.stored a (Records.mem_of_find? ha)).aligned
  have haligned' := (hrun.stored b (Records.mem_of_find? hb)).aligned
  use b, hb
  apply haligned.ids_prefix haligned' hlonger

/-- Under any settings that can be used, whatever clients ask for and in whatever order they take
their turns, from an empty store on every stored application has between one and the greatest
number of slots, each named after its position, and the name leads back to the position, so that
a report on the slot of that name changes just this slot.  No list of references gets shorter
and no slot another name, and a turn of a submission or of an edit makes no list longer than
there may be references. -/
theorem references_keep_shape {vars : Settings.Variables} {settings : Settings}
    (hsettings : Settings.ofVariables vars = .ok settings) (requests : ι → Request)
    (w : Rehoming.World) (moves : List (Move ι)) :
  let policy := settings.policy
  let s := (ofRequests policy requests { w with records := [] }).run moves
  (∀ a ∈ s.world.records,
    1 ≤ a.references.length ∧ a.references.length ≤ policy.maxReferenceSlots
    ∧ ∀ i slot, a.references[i]? = some slot →
        slot.id = Reference.slotId i ∧ Reference.slotIndex? slot.id = some i)
  ∧ (∀ t id a i slot u actor, s.world.records.fetch id false = some a →
      a.references[i]? = some slot → u.referenceId = some slot.id →
      (actor.resolvedIn s.world.directory).mayDo .updateReference a = true →
      ∃ stored, ((s.worldAt t).perform (Service.checkReference policy id u actor)).1 = .ok stored
        ∧ stored.references = a.references.set i (u.applyTo slot))
  ∧ (∀ moves' id a, s.world.records.find? id = some a →
      ∃ b, (s.run moves').world.records.find? id = some b
        ∧ a.references.map (·.id) <+: b.references.map (·.id))
  ∧ ∀ t : Turn ι, (requests t.client).FillsIn → ∀ b ∈ (s.turn t).world.records,
      b.references.length ≤ policy.maxReferences
      ∨ ∃ a ∈ s.world.records, a.applicationId = b.applicationId
          ∧ b.references.length = a.references.length
  := by
  intro policy s
  obtain ⟨hsome, hroom, hword⟩ := Settings.hasRoom_of_ofVariables hsettings
  have hs : Shaped policy requests s := shaped_run hroom w moves
  have hnamed : ∀ a ∈ s.world.records, ∀ i slot, a.references[i]? = some slot →
      i < policy.maxReferenceSlots ∧ slot.id = Reference.slotId i := by
    intro a ha i slot hslot
    obtain ⟨haligned, -, hfew⟩ := hs.stored a ha
    obtain ⟨hi, -⟩ := List.getElem?_eq_some_iff.mp hslot
    use Nat.lt_of_lt_of_le hi hfew
    simpa using haligned.id_eq hslot
  refine ⟨?_, ?_, ?_, ?_⟩
  · intro a ha
    use (hs.stored a ha).some, (hs.stored a ha).few
    intro i slot hslot
    obtain ⟨hi, hid⟩ := hnamed a ha i slot hslot
    use hid
    rw [hid]
    apply Reference.slotIndex?_slotId (Nat.lt_trans hi hword)
  · intro t id a i slot u actor hfound hslot hreport may
    obtain ⟨hstored, -⟩ := Records.fetch_eq_some_iff.mp hfound
    obtain ⟨hi, hid⟩ := hnamed a (Records.mem_of_find? hstored) i slot hslot
    rw [hid] at hreport
    obtain ⟨stored, hperform, hreferences⟩ := World.perform_checkReference (w := s.worldAt t)
      (ReferenceUpdate.resolve_slotId hreport (Nat.lt_trans hi hword) hi) hfound may
    use stored, hperform
    rw [hreferences, Reference.ensureSlot_eq_self (List.getElem?_eq_some_iff.mp hslot).1,
      u.apply_eq_set hslot]
  · intro moves' id a ha
    apply hs.ids_prefix_run hroom ha
  · intro t hfills b hb
    apply hs.length_turn hfills hb

end System

namespace Demo

/-- The adopter applies for a pet with two references, the staff reports on a fourth one, and
the adopter gives the contact details of three. -/
def growth : Fin 3 → Request
  | 0 => .mutation (.submit (submission rufus) adopter)
  | 1 => .mutation (.check ⟨"app-1"⟩ ⟨none, some 3, .contacted, none, none⟩ staff)
  | 2 => .mutation (.edit ⟨"app-1"⟩ ⟨none,
      some (references ++ [⟨none, "Kim Osei", "Neighbor", "+1 555 201 7700", none⟩]), none, none, none,
      none, none, none⟩ adopter)

end Demo

/-- With no variable set, the list grows to four slots, and has them still after the edit. -/
theorem System.grown_references_keep_shape :
  let s := (ofRequests Demo.policy Demo.growth { Demo.informalWorld with records := [] }).run
    (Demo.turns 0 11 0 ++ Demo.turns 1 9 20)
  Settings.ofVariables (fun _ => none) = .ok { policy := Demo.policy }
  ∧ ∃ a b, s.world.records.find? ⟨"app-1"⟩ = some a
    ∧ a.references.map (·.id) = ["ref-0", "ref-1", "ref-2", "ref-3"]
    ∧ a.references.length ≤ Demo.policy.maxReferenceSlots
    ∧ (s.run (Demo.turns 2 9 40)).world.records.find? ⟨"app-1"⟩ = some b
    ∧ a.references.map (·.id) <+: b.references.map (·.id)
    ∧ b.references.map (·.name) = ["Sam Patel", "Dr. Greene", "Kim Osei", "Reference 4"]
  := by
  intro s
  have hsettings : Settings.ofVariables (fun _ => none) = .ok { policy := Demo.policy } := rfl
  have hids : (s.world.records.find? ⟨"app-1"⟩).map (·.references.map (·.id))
      = some ["ref-0", "ref-1", "ref-2", "ref-3"] := by decide +kernel
  have hnames : ((s.run (Demo.turns 2 9 40)).world.records.find? ⟨"app-1"⟩).map
      (·.references.map (·.name)) = some ["Sam Patel", "Dr. Greene", "Kim Osei", "Reference 4"] := by
    decide +kernel
  obtain ⟨a, ha, haids⟩ := Option.map_eq_some_iff.mp hids
  obtain ⟨hshape, -, hprefix, -⟩ := references_keep_shape hsettings Demo.growth Demo.informalWorld
    (Demo.turns 0 11 0 ++ Demo.turns 1 9 20)
  obtain ⟨-, hfew, -⟩ := hshape a (Records.mem_of_find? ha)
  obtain ⟨b, hb, hkept⟩ := hprefix (Demo.turns 2 9 40) ⟨"app-1"⟩ a ha
  have hb' : (s.run (Demo.turns 2 9 40)).world.records.find? ⟨"app-1"⟩ = some b := hb
  rw [hb'] at hnames
  use hsettings, a, b, ha, haids, hfew, hb', hkept
  apply Option.some.inj hnames

end Rehoming
