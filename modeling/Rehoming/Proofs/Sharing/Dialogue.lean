import Rehoming.Proofs.Service.Retrying
import Rehoming.Proofs.Sharing.Effect
/-!
# What a client asks

The calls that a client makes while several share a world, each with the world that answered
it, and the writes that the others make meanwhile.
-/

namespace Rehoming

namespace System

variable {ι : Type} {ρ : ι → Type} [DecidableEq ι] {s : System ρ} {i : ι} {id : ApplicationId}

/-! ### Dialogues -/

/-- The call that a client makes in a move, if any, and the world that answers it. -/
def exchange? (s : System ρ) (i : ι) : Move ι → Option Exchange
  | .turn t =>
    if t.client = i then
      match (s.clients i).program with
      | .done _ => none
      | .ask call _ => some ⟨call, s.worldAt t⟩
    else none
  | .refit _ _ => none

/-- The calls that a client makes in some moves, each with the world that answers it. -/
def dialogue (i : ι) : (s : System ρ) → List (Move ι) → List Exchange
  | _, [] => []
  | s, m :: rest => (s.exchange? i m).toList ++ dialogue i (s.move m) rest

theorem dialogue_of_none {m : Move ι} {rest : List (Move ι)} (h : s.exchange? i m = none) :
  s.dialogue i (m :: rest) = (s.move m).dialogue i rest
  := by
  rw [dialogue, h]
  rfl

theorem dialogue_of_some {m : Move ι} {rest : List (Move ι)} {x : Exchange}
    (h : s.exchange? i m = some x) :
  s.dialogue i (m :: rest) = x :: (s.move m).dialogue i rest
  := by
  rw [dialogue, h]
  rfl

/-- What a move does to a client: nothing, or it answers the client's next call. -/
inductive Hears (s : System ρ) (i : ι) : Move ι → Prop
  | nothing {m} :
      s.exchange? i m = none → ((s.move m).clients i).program = (s.clients i).program →
      Hears s i m
  | answer {t : Turn ι} {call : Call} {next : call.Answer → Program (Except Refusal (ρ i))} :
      t.client = i → (s.clients i).program = .ask call next →
      s.exchange? i (.turn t) = some ⟨call, s.worldAt t⟩ →
      ((s.move (.turn t)).clients i).program = next (World.answer call (s.worldAt t)).1 →
      (s.move (.turn t)).world = (World.answer call (s.worldAt t)).2 →
      Hears s i (.turn t)

theorem hears (s : System ρ) (i : ι) (m : Move ι) :
  s.Hears i m
  := by
  cases m with
  | refit directory questions => exact .nothing rfl rfl
  | turn t =>
    by_cases hi : t.client = i
    · subst hi
      cases hprogram : (s.clients t.client).program with
      | done result =>
        apply Hears.nothing
        · simp [exchange?, hprogram]
        · rw [move, turn, hprogram]
          exact hprogram
      | ask call next =>
        apply Hears.answer rfl hprogram
        · simp [exchange?, hprogram]
        · rw [move, turn_eq hprogram, answer_clients_self]
        · rw [move, turn_eq hprogram, answer_world]
    · apply Hears.nothing
      · simp [exchange?, hi]
      · rw [move, turn_clients_of_ne (Ne.symm hi)]

/-- What is left of the operation of a client is what its dialogue leaves of it. -/
theorem reaches_run (s : System ρ) (i : ι) (moves : List (Move ι)) :
  (s.clients i).program.Reaches (s.dialogue i moves) ((s.run moves).clients i).program
  := by
  induction moves generalizing s with
  | nil => apply Program.Reaches.stay
  | cons m rest ih =>
    have hrest := ih (s.move m)
    cases s.hears i m with
    | nothing hsilent hsame =>
      rw [dialogue_of_none hsilent, ← hsame]
      exact hrest
    | answer hi hprogram hasked hheard hworld =>
      rw [dialogue_of_some hasked, hprogram]
      apply Program.Reaches.ask
      rw [← hheard]
      exact hrest

/-! ### Rivals -/

/-- The entries of the journal that some moves add. -/
def added (s : System ρ) (moves : List (Move ι)) : List (Entry ι) :=
  (s.run moves).journal.drop s.journal.length

/-- How many writes over the record of a name other clients make in some moves. -/
def rivals (s : System ρ) (i : ι) (id : ApplicationId) (moves : List (Move ι)) : Nat :=
  (s.added moves).countP fun e =>
    e.client ≠ i ∧ e.kind = .update ∧ e.record.applicationId = id

theorem journal_prefix_run (s : System ρ) (moves : List (Move ι)) :
  s.journal <+: (s.run moves).journal
  := by
  apply run_induction (P := fun s' => s.journal <+: s'.journal) _ (List.prefix_refl _)
  intro m _ s' hs'
  apply hs'.trans
  cases m with
  | refit directory questions => apply List.prefix_refl
  | turn t =>
    apply turn_induction (P := fun s'' => s'.journal <+: s''.journal) (List.prefix_refl _)
    intro call next _
    rw [answer_journal]
    apply List.prefix_append

theorem run_append (moves later : List (Move ι)) :
  s.run (moves ++ later) = (s.run moves).run later
  := List.foldl_append

theorem journal_run (s : System ρ) (moves : List (Move ι)) :
  (s.run moves).journal = s.journal ++ s.added moves
  := List.prefix_iff_eq_append.mp (s.journal_prefix_run moves) |>.symm

theorem added_append (s : System ρ) (moves later : List (Move ι)) :
  s.added (moves ++ later) = s.added moves ++ (s.run moves).added later
  := by
  rw [added, run_append, journal_run, journal_run, List.append_assoc, List.drop_left]

theorem rivals_append (moves later : List (Move ι)) :
  s.rivals i id (moves ++ later) = s.rivals i id moves + (s.run moves).rivals i id later
  := by
  rw [rivals, added_append, List.countP_append]
  rfl

theorem rivals_cons (m : Move ι) (rest : List (Move ι)) :
  s.rivals i id (m :: rest) = s.rivals i id [m] + (s.move m).rivals i id rest
  := rivals_append [m] rest

/-- The turn of another client in which it writes over the record of a name counts. -/
theorem one_le_rivals_of_written {t : Turn ι} {call : Call}
    {next : call.Answer → Program (Except Refusal (ρ t.client))} {written : Application}
    (hclient : t.client ≠ i) (hprogram : (s.clients t.client).program = .ask call next)
    (hwritten : call.written (World.answer call (s.worldAt t)).1 = some (.update, written)) :
  1 ≤ s.rivals i written.applicationId [.turn t]
  := by
  have hadded : s.added [.turn t]
      = [⟨t.client, (s.clients t.client).sight, .update, written⟩] := by
    rw [added, run, List.foldl_cons, List.foldl_nil, move, turn_eq hprogram, answer_journal,
      hwritten, List.drop_left]
    rfl
  rw [rivals, hadded]
  simp [hclient]

/-- Whenever the version of a stored record changes, without the client's doing, another client
has written over the record. -/
theorem version_move {current : Application} {m : Move ι}
    (hstored : s.world.records.find? id = some current)
    (hother : ∀ x, s.exchange? i m = some x → x.isUpdate = false) :
  ∃ later, (s.move m).world.records.find? id = some later
    ∧ (later.version = current.version ∨ 1 ≤ s.rivals i id [m])
  := by
  cases m with
  | refit directory questions => exact ⟨current, hstored, .inl rfl⟩
  | turn t =>
    cases hprogram : (s.clients t.client).program with
    | done result =>
      use current
      rw [move, turn, hprogram]
      exact ⟨hstored, .inl rfl⟩
    | ask call next =>
      have hworld : (s.move (.turn t)).world = (World.answer call (s.worldAt t)).2 := by
        rw [move, turn_eq hprogram, answer_world]
      rw [hworld]
      obtain ⟨-, hsame⟩ | ⟨a, rfl, -, hinsert⟩ | ⟨a, expected, written, rfl, hwritten, hupdate⟩ :=
        World.answer_cases call (s.worldAt t)
      · rw [hsame]
        exact ⟨current, hstored, .inl rfl⟩
      · obtain ⟨-, -, hlater⟩ := Records.insert_eq_ok_iff.mp hinsert
        rw [hlater]
        exact ⟨current, Records.find?_append hstored, .inl rfl⟩
      · have hclient : t.client ≠ i := by
          rintro rfl
          have hown := hother ⟨.update a expected, s.worldAt t⟩ (by simp [exchange?, hprogram])
          cases hown
        obtain ⟨replaced, -, -, hname, hlater⟩ := Records.update_eq_ok_iff.mp hupdate
        rw [hlater, Records.find?_replace]
        by_cases hid : written.applicationId = id
        · subst hid
          have hfound : (s.worldAt t).records.find? written.applicationId = some current := hstored
          rw [if_pos rfl, hfound]
          exact ⟨written, rfl, .inr (one_le_rivals_of_written hclient hprogram hwritten)⟩
        · rw [if_neg hid]
          exact ⟨current, hstored, .inl rfl⟩

end System

end Rehoming
